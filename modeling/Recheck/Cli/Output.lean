import Recheck.Cli.Options
import Recheck.Journal
import Recheck.Text.Width

/-!
# Output of runs

A run writes on two streams. Documents and messages lose the sequences that colour a terminal;
coloured text keeps what its parts hold, with spaces for tabs. Which texts the encoding of the
stream for results cannot take is up to the environment. A run ends with a code.
-/

namespace Recheck.Cli

/-- Something that is written: on the stream for results, or on the one for messages. -/
inductive Writing
  | result (text : Text)
  | message (text : Text)
  deriving DecidableEq, Repr

inductive Ending
  | clean
  /-- Errors were found in the checked code. -/
  | findings
  /-- The run could not do what it was asked for. -/
  | fault
  /-- A failure that nobody handled. -/
  | broken (failure : Failure)
  deriving DecidableEq, Repr

def Ending.code : Ending → Nat
  | clean => 0
  | findings => 1
  | fault => 2
  | broken _ => 1

/-- A run: what it wrote, in order, and how it ended. -/
structure Run where
  writings : List Writing
  ending : Ending
  deriving DecidableEq, Repr

def Run.results (r : Run) : Text :=
  r.writings.flatMap fun w => match w with
    | .result t => t
    | .message _ => []

def Run.messages (r : Run) : Text :=
  r.writings.flatMap fun w => match w with
    | .result _ => []
    | .message t => t

/-- Whether a character may stand between the bracket and the letter of a colour sequence. -/
def isColourParameter (c : Char) : Bool := c == ';' || c == '?' || c.isDigit

/-- What follows a colour sequence whose escape character has been read. -/
def afterColour? : Text → Option Text
  | '[' :: rest =>
    match rest.dropWhile isColourParameter with
    | c :: rest => if c.isAlpha then some rest else none
    | [] => none
  | _ => none

theorem length_afterColour?_lt {t rest : Text} (h : afterColour? t = some rest) :
    rest.length < t.length := by
  unfold afterColour? at h
  split at h
  · next tail =>
    have hdrop := (List.dropWhile_sublist (l := tail) isColourParameter).length_le
    split at h
    · next c after hc =>
      split at h
      · simp only [Option.some.injEq] at h
        subst h
        rw [hc] at hdrop
        simp only [List.length_cons] at hdrop ⊢
        omega
      · simp at h
    · simp at h
  · simp at h

/-- The text without colour sequences. -/
def withoutColour : Text → Text
  | [] => []
  | '\x1b' :: rest =>
    match h : afterColour? rest with
    | some after =>
      have : after.length < rest.length := length_afterColour?_lt h
      withoutColour after
    | none => '\x1b' :: withoutColour rest
  | c :: rest => c :: withoutColour rest
termination_by t => t.length
decreasing_by all_goals (simp only [List.length_cons]; omega)

/-- A text as a line on a stream, without colour. -/
def plainLine (t : Text) : Text := withoutColour t ++ ['\n']

/-- A text as lines on a stream that shows no colour, with spaces for tabs. -/
def consoleLines (t : Text) : Text :=
  List.intercalate ['\n'] ((Text.lines t).map Text.expandTabs) ++ ['\n']

def shownLines : Format → Text → Text
  | .human => consoleLines
  | _ => plainLine

structure Environment where
  version : Text
  interpreter : Text
  platform : Text
  compiler : Option Text := none
  /-- Why the stream for results does not take a text that is written in a format, if it does not:
  its encoding can lack a character. Then nothing of the text is written. The stream for messages
  takes every text. -/
  refusal? : Format → Text → Option Failure := fun _ _ => none

/-- A text as a result, unless the stream does not take it. -/
def Environment.writeResult (e : Environment) (format : Format) (t : Text) :
    Except Failure Writing :=
  match e.refusal? format t with
  | some failure => .error failure
  | none => .ok (.result t)

/-- A report in a format, unless it holds a number that cannot be spelled or the stream does not
take its text. -/
def writeReport (e : Environment) (report : Report) (showMetrics : Bool) (format : Format) :
    Except Failure Writing := do
  let t ← report.render? showMetrics format
  e.writeResult format (shownLines format t)

/-- A message that a run could not do its work. -/
def writeFault (message : Text) (format : Format) : Writing :=
  .message (plainLine (errorText message format))

def writeEntry (time : Text) (e : Entry) : Writing :=
  .message (List.intercalate [' ', '-', ' '] [time, e.part.name, e.level.name, e.message] ++ ['\n'])

/-- The lines that tell the version of the program and the system under it. -/
def Environment.lines (e : Environment) : List Text :=
  ["fastcheck version " ++ e.version, [], "Environment:",
    "  Python:        " ++ e.interpreter, "  Platform:      " ++ e.platform,
    "  mypy:          " ++ e.compiler.getD "not installed"]

/-- The run that tells the version. -/
def versionRun (e : Environment) : Run :=
  { writings := e.lines.map fun line => .result (plainLine line), ending := .clean }

end Recheck.Cli
