import Recheck.Diagnostic.Line

/-!
# Printing diagnostics

The lines in which a compiler reports a diagnostic: its head with its place and code, then a
line for every note at the same place.
-/

namespace Recheck

def MessageLine.print (l : MessageLine) : Text :=
  l.file ++ (l.line.elim [] (':' :: ·)) ++ (l.column.elim [] (':' :: ·))
    ++ MessageLine.marker l.category ++ l.message
    ++ (l.code.elim [] fun code => [' ', ' ', '['] ++ code ++ [']'])

namespace Diagnostic

/-- A line at the place of a diagnostic in a file; places are printed from one on. -/
def lineAt (d : Diagnostic) (file : Text) (category : Category) (message : Text)
    (code : Option Text) : MessageLine :=
  { file, line := some (Text.ofInt (d.line + 1)), column := some (Text.ofInt (d.column + 1))
    category, message, code }

def print (d : Diagnostic) : List Text :=
  match d.file, d.chain with
  | none, chain => chain
  | some _, [] => []
  | some file, head :: notes =>
    (d.lineAt file d.category head (some d.code)).print
      :: notes.map fun note => (d.lineAt file .message note none).print

def printAll (ds : List Diagnostic) : List Text := ds.flatMap print

end Diagnostic

end Recheck
