import Recheck.Decimal
import Recheck.Path
import Recheck.Text.Quoted

/-!
# Failures

A *fault* is a reason why a query could not run that its user can mend; it has a kind and a
notice. Errors found in the checked code are results and never faults. All other ways in which
an operation ends without a result are failures too.
-/

namespace Recheck

/-- The kinds of faults. -/
inductive FaultKind
  | general
  | configuration
  | sourceNotFound
  /-- Version control cannot tell the state of the project. -/
  | notVersionControlled
  /-- A program was asked about a file that it does not contain. -/
  | outOfScope
  deriving DecidableEq, Repr

/-- A fault as it is shown: its kind, a sentence, and the path that it is about. -/
structure Notice where
  kind : FaultKind
  text : Text
  path : Option Text := none
  deriving DecidableEq, Repr

/-- The whole message: the sentence, then the path if there is one. -/
def Notice.message (notice : Notice) : Text :=
  match notice.path with
  | none => notice.text
  | some path => notice.text ++ [':', ' '] ++ Path.tidy path

inductive Fault
  | unparsable (reason path : Text)
  | invalidSettings (problems path : Text)
  | notADirectory (root : Text)
  | noCompilerConfig (root : Text)
  | optionsRejected (reason path : Text)
  /-- Source files that cannot be collected. -/
  | sourcesNotCollected (reason : Text) (root : Option Text)
  | fileNotFound (path : Text)
  /-- A project root at which version control reports no status. -/
  | noRepository (root : Text)
  | noVersionControl
  | notInProgram (path : Text)
  deriving DecidableEq, Repr

def Fault.notice : Fault → Notice
  | unparsable reason path =>
    ⟨.configuration, "Cannot parse configuration (" ++ reason ++ [')'], some path⟩
  | invalidSettings problems path =>
    ⟨.configuration, "Invalid [tool.fastcheck] settings (" ++ problems ++ [')'], some path⟩
  | notADirectory root => ⟨.configuration, "Project root is not a directory", some root⟩
  | noCompilerConfig root =>
    ⟨.configuration,
      "No mypy configuration found (expected mypy.ini, .mypy.ini, pyproject.toml with "
        ++ "[tool.mypy] or setup.cfg with [mypy])".toList,
      some root⟩
  | optionsRejected reason path =>
    ⟨.configuration, "mypy rejected the configuration (" ++ reason ++ [')'], some path⟩
  | sourcesNotCollected reason root =>
    ⟨.configuration, "Cannot collect source files (" ++ reason ++ [')'], root⟩
  | fileNotFound path => ⟨.sourceNotFound, "File not found", some path⟩
  | noRepository root =>
    ⟨.notVersionControlled, "Not a git repository or git command failed", some root⟩
  | noVersionControl => ⟨.notVersionControlled, "git command not found", none⟩
  | notInProgram path => ⟨.outOfScope, "Could not find source file", some path⟩

def Fault.message (fault : Fault) : Text := fault.notice.message

def Fault.kind (fault : Fault) : FaultKind := fault.notice.kind

/-- The ways in which an operation ends without a result. -/
inductive Failure
  /-- A fault that the user can mend. -/
  | fault (cause : Fault)
  /-- A collaborator broke down, with what it says. -/
  | crash (reason : Text)
  | linkCircle (path : Text)
  /-- Data of the wrong shape, with the problems. -/
  | invalid (problems : Text)
  | tooManyDigits (count : Nat)
  /-- A number that is to be spelled and has too many digits for it. -/
  | unspellable
  | emptyPath
  | nulInPath
  /-- A path that is too long to be looked up, by itself or by one of its names. -/
  | pathTooLong (path : Text)
  | unknownFormat (name : Text)
  /-- A computation with times that has no result. -/
  | arithmetic (cause : Number.Fault)
  | unknownRequest
  | undecodable
  /-- A document in which a value that is no table, list or text is searched. -/
  | notSearchable
  /-- A document in which a value that is no table is read as one. -/
  | notATable
  | interrupted
  deriving DecidableEq, Repr

/-- The sentence about a computation that has no result. -/
def Number.Fault.message : Number.Fault → Text
  | infinite => "cannot convert float infinity to integer"
  | undefined => "cannot convert float NaN to integer"
  | beyondDoubles => "int too large to convert to float"
  | quotientBeyondDoubles => "integer division result too large for a float"

def Failure.message : Failure → Text
  | fault cause => cause.message
  | crash reason => reason
  | linkCircle path => "Symlink loop from " ++ Text.quoted path
  | invalid problems => problems
  | tooManyDigits count =>
    "Exceeds the limit (4300 digits) for integer string conversion: value has "
      ++ Text.ofNat count
      ++ " digits; use sys.set_int_max_str_digits() to increase the limit"
  | unspellable =>
    "Exceeds the limit (4300 digits) for integer string conversion; "
      ++ "use sys.set_int_max_str_digits() to increase the limit".toList
  | emptyPath => "no path specified"
  | nulInPath => "embedded null byte"
  | pathTooLong path => "[Errno 36] File name too long: " ++ Text.quoted path
  | unknownFormat name => Text.quoted name ++ " is not a valid OutputFormat".toList
  | arithmetic cause => cause.message
  | unknownRequest => "Unknown check request"
  | undecodable => "'utf-8' codec can't decode bytes"
  | notSearchable => "argument is not iterable"
  | notATable => "object has no attribute 'get'"
  | interrupted => []

/-- Whether the failure is one that a program may handle; an interruption ends it. -/
def Failure.isHandled : Failure → Bool
  | interrupted => false
  | _ => true

end Recheck
