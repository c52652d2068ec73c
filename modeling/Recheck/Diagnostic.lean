import Recheck.Failure

/-!
# Diagnostics

What a compiler reports about a program: where, what, and how severe.
-/

namespace Recheck

inductive Category
  | error
  | warning
  | message
  deriving DecidableEq, Repr

/-- A diagnostic of the compiler. Lines and columns count from zero; a diagnostic without a file
is about the whole program. -/
structure Diagnostic where
  file : Option Text
  line : Int
  column : Int
  code : Text
  /-- The head message, then the notes attached to it. -/
  chain : List Text
  category : Category := .error
  /-- Whether the file does not even parse. -/
  syntactic : Bool := false
  deriving DecidableEq, Repr

namespace Diagnostic

/-- The head message and its notes as one text. -/
def flatten (separator : Text) (d : Diagnostic) : Text := List.intercalate separator d.chain

def attach (note : Text) (d : Diagnostic) : Diagnostic := { d with chain := d.chain ++ [note] }

end Diagnostic

end Recheck
