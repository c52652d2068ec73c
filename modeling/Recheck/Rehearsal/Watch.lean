import Recheck.Rehearsal.Stage
import Recheck.Rehearsal.World
import Recheck.Watch.Session

/-!
# Rehearsals of watching

A watch session that is taken through steps: edits of files, looks at them, and timers that run
out when the rehearsal says so.
-/

namespace Recheck.Rehearsal

inductive WatchStep
  | edit (e : Edit)
  | start (initial : Bool)
  | stop
  | poll
  | fire
  | notify (path : Text)
  | clock (reading : Number)

inductive WatchAnswer
  | nothing
  | paths (ps : List Text)
  | count (n : Nat)

structure Watching where
  stage : Stage
  watch : Watch World

namespace Watching

/-- The part of a step that the watch session takes. -/
def perform (p : Project World) (patterns : List Text) (disk : Disk) :
    WatchStep → StateM (Watch World) (Except Failure WatchAnswer)
  | .edit _ => return .ok .nothing
  | .start initial => do
    return (← Watch.start p disk patterns [p.root] initial).map fun () => .nothing
  | .stop => do
    Watch.stop
    return .ok .nothing
  | .poll => do return (← Watch.poll disk patterns [p.root]).map .paths
  | .fire => do return (← Watch.fire p disk).map .count
  | .notify path => do return (← Watch.notify path).map fun () => .nothing
  | .clock reading => do
    modify fun w => { w with clock := reading }
    return .ok .nothing

def step (p : Project World) (patterns : List Text) (w : Watching) (s : WatchStep) :
    Except Failure WatchAnswer × Watching :=
  match s with
  | .edit e => (.ok .nothing, { w with stage := w.stage.apply e })
  | s =>
    let (answer, watch) := (perform p patterns w.stage.disk s).run w.watch
    (answer, { w with watch })

/-- The rehearsal after steps, and the failure that ended it early. -/
def run (p : Project World) (patterns : List Text) :
    List WatchStep → Watching → Except Failure Unit × Watching
  | [], w => (.ok (), w)
  | s :: steps, w =>
    match w.step p patterns s with
    | (.ok _, w) => run p patterns steps w
    | (.error failure, w) => (.error failure, w)

end Watching

end Recheck.Rehearsal
