import Recheck.Diagnostic
import Recheck.Text.Blank
import Recheck.Text.Digit
import Recheck.Text.Word

/-!
# Message lines

A compiler reports a diagnostic as one line,

    file:line:column: severity: message  [code]

in which the line, the column and the code may be missing. The severity is the first one in the
line with something before it, and the file is as short as the numbers behind it allow. Any
other line is a message about the whole program.
-/

namespace Recheck

/-- The parts of a message line. Numbers are kept as they are spelled. -/
structure MessageLine where
  file : Text
  line : Option Text
  column : Option Text
  category : Category
  message : Text
  code : Option Text
  deriving DecidableEq, Repr

namespace MessageLine

def severityWord : Category → Text
  | .error => ['e', 'r', 'r', 'o', 'r']
  | .warning => ['w', 'a', 'r', 'n', 'i', 'n', 'g']
  | .message => ['n', 'o', 't', 'e']

/-- What stands between the position and the message. -/
def marker (category : Category) : Text := [':', ' '] ++ severityWord category ++ [':', ' ']

/-- The severity at the start of a text, and what follows it. -/
def markerHere? (t : Text) : Option (Category × Text) :=
  [Category.error, .warning, .message].findSome? fun category =>
    (Text.dropHead? (marker category) t).map (category, ·)

/-- The first severity in a text: what stands before it, the severity, what follows. -/
def cutAtMarker : Text → Option (Text × Category × Text)
  | [] => none
  | c :: rest =>
    match markerHere? (c :: rest) with
    | some (category, message) => some ([], category, message)
    | none =>
      (cutAtMarker rest).map fun (before, category, message) => (c :: before, category, message)

/-- The last colon of a text with the number behind it, which ends the text: what stands before
them, and the number. A minus sign belongs to the number where `signed` allows one. -/
def cutNumber? (signed : Bool) (t : Text) : Option (Text × Text) :=
  let back := t.reverse
  let digits := (back.takeWhile Text.isDecimal).reverse
  if digits.isEmpty then none
  else
    match back.dropWhile Text.isDecimal with
    | ':' :: before => some (before.reverse, digits)
    | '-' :: ':' :: before => if signed then some (before.reverse, '-' :: digits) else none
    | _ => none

/-- The file, line and column before a severity: the shortest file that is not empty and leaves
nothing but a line, or a line and a column. -/
def cutPosition (t : Text) : Text × Option Text × Option Text :=
  let withColumn := do
    let (rest, column) ← cutNumber? false t
    let (file, line) ← cutNumber? true rest
    if file.isEmpty then none else some (file, some line, some column)
  let withLine := do
    let (file, line) ← cutNumber? true t
    if file.isEmpty then none else some (file, some line, none)
  (withColumn.or withLine).getD (t, none, none)

def isCodeChar (c : Char) : Bool := Text.isWord c || c == '-'

/-- The message and the code in brackets after it, if two spaces and a code end the text. -/
def cutCode (t : Text) : Text × Option Text :=
  match t.reverse with
  | ']' :: back =>
    let code := (back.takeWhile isCodeChar).reverse
    match back.dropWhile isCodeChar with
    | '[' :: ' ' :: ' ' :: before =>
      if code.isEmpty then (t, none) else (before.reverse, some code)
    | _ => (t, none)
  | _ => (t, none)

/-- The parts of a line, unless it names no place. -/
def parse? (line : Text) : Option MessageLine :=
  if line.contains '\n' then none
  else
    match line with
    | [] => none
    | c :: rest => do
      let (before, category, rest) ← cutAtMarker rest
      let (file, line, column) := cutPosition (c :: before)
      let (message, code) := cutCode rest
      return { file, line, column, category, message, code }

/-- The index, from zero, that a number spells; a missing number is the first, and nothing comes
before it. -/
def index (number : Option Text) : Except Failure Nat :=
  match number with
  | none => .ok 0
  | some ('-' :: digits) =>
    if Text.maxDigits < digits.length then .error (.tooManyDigits digits.length) else .ok 0
  | some digits =>
    if Text.maxDigits < digits.length then .error (.tooManyDigits digits.length)
    else .ok (Text.decimalValue digits - 1)

end MessageLine

end Recheck
