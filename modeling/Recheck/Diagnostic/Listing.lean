import Recheck.Diagnostic.Line

/-!
# Listings of messages

The lines that a compiler prints become diagnostics in the same order. A note belongs to the
error or warning before it when both are about one line of one file; every other note stands
alone.
-/

namespace Recheck.Diagnostic

def defaultCode : Text := ['m', 'i', 's', 'c']

def syntaxCode : Text := ['s', 'y', 'n', 't', 'a', 'x']

/-- A line without a place, as a diagnostic of the whole program. -/
def unlocated (line : Text) : Diagnostic :=
  { file := none, line := 0, column := 0, code := defaultCode, chain := [Text.trim line] }

/-- Whether a note about a line of a file continues the diagnostic. -/
def takesNote (file : Text) (line : Nat) (d : Diagnostic) : Bool :=
  d.category ≠ .message && d.file == some file && d.line == Int.ofNat line

/-- The diagnostics, the latest first, with one more line of the listing. A relative file counts
from the directory. -/
def addLine (directory : Text) (done : List Diagnostic) (raw : Text) :
    Except Failure (List Diagnostic) :=
  let line := Text.dropTrailing (fun c => c == '\r' || c == '\n') raw
  if Text.allBlank line then .ok done
  else
    match MessageLine.parse? line with
    | none => .ok (unlocated line :: done)
    | some parts => do
      let file := Path.normalize directory parts.file
      let place ← MessageLine.index parts.line
      let alone : Except Failure (List Diagnostic) := do
        let column ← MessageLine.index parts.column
        let code := parts.code.getD defaultCode
        return { file := some file, line := Int.ofNat place, column := Int.ofNat column, code
                 chain := [parts.message], category := parts.category
                 syntactic := code == syntaxCode } :: done
      match parts.category, done with
      | .message, previous :: earlier =>
        if previous.takesNote file place then return previous.attach parts.message :: earlier
        else alone
      | _, _ => alone

def ofLines (directory : Text) (lines : List Text) : Except Failure (List Diagnostic) :=
  (lines.foldlM (addLine directory) []).map List.reverse

end Recheck.Diagnostic
