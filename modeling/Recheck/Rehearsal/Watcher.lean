import Recheck.Journal
import Recheck.Rehearsal.Stage
import Recheck.Watch.Watcher

/-!
# Rehearsals of the watcher

A watcher that is taken through steps: edits of files, looks at them, and turns of its loop. Who
is told of the changes may fail for some files; that is written down, and the others are told of
all the same.
-/

namespace Recheck.Rehearsal

/-- How the listener of a watcher fails: what it says, and how the paths end for which it
fails. -/
structure ListenerFault where
  reason : Text
  ending : Text := []

inductive WatcherStep
  | edit (e : Edit)
  | poll
  | start
  | stop
  /-- Some turns of the loop; every scan fails if a reason is given. -/
  | loop (turns : Nat) (scanFault : Option Text)

structure Watched where
  stage : Stage
  patterns : List Text
  paths : List Text
  fault : Option ListenerFault := none
  baseline : Watcher.Baseline := []

namespace Watched

/-- The listener: it notes the path, the latest first, and then may fail. -/
def listener (fault : Option ListenerFault) (path : Text) :
    StateM (List Text) (Except Failure Unit) := do
  modify (path :: ·)
  match fault with
  | none => return .ok ()
  | some fault =>
    if List.isSuffixOf fault.ending path then return .error (.crash fault.reason)
    else return .ok ()

structure Outcome where
  /-- The changed paths, where the step asks for them, or why the files cannot be looked at. -/
  changed : Except Failure (Option (List Text)) := .ok none
  /-- The paths that the listener was told of. -/
  told : List Text := []
  entries : List Entry := []

/-- A look at the files: the watcher after it, and its outcome. -/
def poll (w : Watched) : Watched × Outcome :=
  let (look, told) :=
    (Watcher.poll (listener w.fault) w.stage.disk w.patterns w.paths w.baseline).run []
  ({ w with baseline := look.baseline },
    { changed := look.changed.map some, told := told.reverse, entries := look.entries })

/-- What is written down when the files cannot be looked at. -/
def scanEntry (reason : Text) : Entry := ⟨.watch, .error, "File watcher error: " ++ reason⟩

/-- What a look at the files leaves in the journal as a turn of the loop. -/
def Outcome.loopEntries (outcome : Outcome) : List Entry :=
  match outcome.changed with
  | .ok _ => outcome.entries
  | .error failure => [scanEntry failure.message]

/-- Some looks one after the other, as the loop takes them. -/
def pollTimes (w : Watched) : Nat → Watched × Outcome
  | 0 => (w, {})
  | turns + 1 =>
    let (w, first) := w.poll
    let (w, rest) := w.pollTimes turns
    (w, { told := first.told ++ rest.told, entries := first.loopEntries ++ rest.entries })

def step (w : Watched) : WatcherStep → Watched × Outcome
  | .edit e => ({ w with stage := w.stage.apply e }, {})
  | .poll => w.poll
  | .start =>
    let look := Watcher.start w.stage.disk w.patterns w.paths w.baseline
    ({ w with baseline := look.baseline }, { changed := look.changed.map fun _ => none })
  | .stop => (w, {})
  | .loop turns (some reason) =>
    (w, { entries := List.replicate turns (scanEntry reason) })
  | .loop turns none => w.pollTimes turns

end Watched

end Recheck.Rehearsal
