import Recheck.Diagnostic
import Recheck.Report

/-!
# Records of diagnostics

Located errors and warnings become records, the records of one file together. Positions count
from one, and the path of the file leads to it from the project root.
-/

namespace Recheck.Record

/-- The problems that keep a position and a code from being a record's. -/
def problemsOf (line column : Int) (code : Text) : List Problem :=
  (if line < 1 then [⟨["line"], "Input should be greater than or equal to 1"⟩] else [])
    ++ (if column < 1 then [⟨["column"], "Input should be greater than or equal to 1"⟩] else [])
    ++ (if code.isEmpty then [⟨["code"], "String should have at least 1 character"⟩] else [])

def severityOf : Category → Severity
  | .warning => .warning
  | _ => .error

def ofLocated (directory root file : Text) (d : Diagnostic) : Except Failure Record :=
  if file.isEmpty then .error .emptyPath
  else
    match problemsOf (d.line + 1) (d.column + 1) d.code with
    | [] =>
      .ok { file := Path.relative directory file root, line := d.line + 1, column := d.column + 1
            code := d.code, message := d.flatten ['\n'], severity := severityOf d.category }
    | problems => .error (.invalid (Problem.summary [] problems))

/-- The record of a diagnostic, if it is a located error or warning. -/
def ofDiagnostic? (directory root : Text) (d : Diagnostic) : Except Failure (Option Record) :=
  match d.file, d.category with
  | none, _ | _, .message => .ok none
  | some file, _ => some <$> ofLocated directory root file d

/-- The records of diagnostics: those of one file together, files in the order of their first
record, and the records of a file in the order of the diagnostics. -/
def ofDiagnostics (directory root : Text) (diagnostics : List Diagnostic) :
    Except Failure (List Record) :=
  (diagnostics.mapM (ofDiagnostic? directory root)).map fun records =>
    gather Record.file (records.filterMap id)

end Recheck.Record
