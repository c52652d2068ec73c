import Recheck.Rehearsal.Stage
import Recheck.Rehearsal.World
import Recheck.Session.Query

/-!
# Rehearsals of sessions

A session that is taken through steps: edits of the disk, queries, and looks at what the session
holds.
-/

namespace Recheck.Rehearsal

inductive SessionStep
  | edit (e : Edit)
  | checkFile (path : Text)
  | checkPaths (paths : List Text)
  | checkChanged
  | checkAll
  | run (request : Option Request)
  | isRoot (path : Text)
  | resolve (path : Text)
  | refresh (path : Text) (force : Bool)
  | roots
  | version (path : Text)
  | snapshot (path : Text)
  | program

inductive Answer
  | nothing
  | report (r : Report)
  | truth (b : Bool)
  | text (t : Text)
  | texts (ts : List Text)
  | count (n : Option Nat)
  | snapshot (s : Option Snapshot)
  /-- A build, and whether the step before it gave the same one. -/
  | program (same : Bool) (b : Build)

structure Rehearsed where
  stage : Stage
  session : Session World
  /-- The number of the build that was looked at last. -/
  seen : Option Nat := none

/-- The files that a rehearsal takes for changed: those of a list, or those that version control
reports. -/
def changed (p : Project World) (given : Option (List Text)) (disk : Disk) :
    Activity World (List Text) :=
  match given with
  | some paths => return paths
  | none => Change.changedFiles p p.config.settings.extensions disk

/-- A step that leaves the disk as it is. -/
def SessionStep.perform (p : Project World) (given : Option (List Text)) (disk : Disk)
    (seen : Option Nat) : SessionStep → Activity World Answer
  | .edit _ => return .nothing
  | .checkFile path => .report <$> p.checkFile disk path
  | .checkPaths paths => .report <$> p.checkPaths disk paths
  | .checkChanged => .report <$> p.checkChanged (changed p given) disk
  | .checkAll => .report <$> p.checkAll disk
  | .run (some request) => .report <$> p.run disk request
  | .run none => throw .unknownRequest
  | .isRoot path => .truth <$> p.isRootFile disk path
  | .resolve path => do return .text (← p.resolve disk path)
  | .refresh path force => do
    if path.contains '\x00' then throw .nulInPath
    let readable := (disk.text? path).isSome
    modify (·.refresh disk path force)
    let s ← get
    return .count (if readable then s.store.version? path else none)
  | .roots => .texts <$> p.rootFiles disk
  | .version path => do
    let s ← get
    return .count (some (s.versionOf path))
  | .snapshot path => do
    modify (·.ensureRead disk path)
    let s ← get
    return .snapshot (s.store.get? path)
  | .program => do
    let build ← p.program disk
    return .program (seen == some build.number) build

def Rehearsed.step (p : Project World) (given : Option (List Text)) (r : Rehearsed)
    (step : SessionStep) : Except Failure Answer × Rehearsed :=
  match step with
  | .edit e => (.ok .nothing, { r with stage := r.stage.apply e })
  | step =>
    let (answer, session) := (step.perform p given r.stage.disk r.seen).run.run r.session
    let seen := match answer with
      | .ok (.program _ build) => some build.number
      | _ => r.seen
    (answer, { r with session, seen })

end Recheck.Rehearsal
