import Recheck.Text

/-!
# Journals

What the parts of the program write down while they work, for those who look into a problem.
-/

namespace Recheck

inductive Part
  | config
  | changes
  | compiler
  | host
  | checker
  | watch
  | commands
  deriving DecidableEq, Repr

inductive Level
  | debug
  | error
  deriving DecidableEq, Repr

structure Entry where
  part : Part
  level : Level
  message : Text
  deriving DecidableEq, Repr

def Part.name : Part → Text
  | config => "fastcheck.core.config"
  | changes => "fastcheck.core.changes"
  | compiler => "fastcheck.core.mypy_toolchain"
  | host => "fastcheck.core.host"
  | checker => "fastcheck.core.checker"
  | watch => "fastcheck.core.watch"
  | commands => "fastcheck.cli.commands"

def Level.name : Level → Text
  | debug => "DEBUG"
  | error => "ERROR"

/-- Whether an entry is shown: errors always, the rest only to those who ask. -/
def Entry.isShown (verbose : Bool) (e : Entry) : Bool := e.level == .error || verbose

end Recheck
