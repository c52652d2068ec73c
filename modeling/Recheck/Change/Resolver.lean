import Recheck.Change.Porcelain
import Recheck.Session

/-!
# Changed files

The files that version control reports as changed below the project root, by absolute path.
-/

namespace Recheck.Change

variable {σ : Type}

/-- The output of a command of version control; its complaints go into the journal. -/
def ask (p : Project σ) (arguments : List Text) : Activity σ Text := do
  match ← Session.ask (p.tools.versionControl p.root arguments) with
  | .output text => return text
  | .failed complaints =>
    modify (·.log .changes ("git " ++ List.intercalate [' '] arguments
      ++ " failed: ".toList ++ Text.trim complaints))
    throw (.fault (.noRepository p.root))
  | .missing => throw (.fault .noVersionControl)
  | .notRun reason => throw (.crash reason)
  | .garbled => throw .undecodable

def resolveAll (disk : Disk) (top : Text) (paths : List Text) : Except Failure (List Text) :=
  paths.mapM fun path => Config.resolve disk (Path.within top path)

/-- The changed source files, each once, in the order of the status listing. -/
def changedFiles (p : Project σ) (extensions : List Text) (disk : Disk) :
    Activity σ (List Text) := do
  let top ← Config.resolve disk
    (Path.join p.directory (Text.trim (← ask p ["rev-parse", "--show-toplevel"])))
  let listing ← ask p
    ["status", "--porcelain", "-z", "--untracked-files=all", "--", p.root]
  let files ← resolveAll disk top (withExtension extensions (paths listing))
  modify (·.log .changes
    ("git reports " ++ Text.ofNat files.length ++ " changed source file(s)".toList))
  return files.eraseDups

end Recheck.Change
