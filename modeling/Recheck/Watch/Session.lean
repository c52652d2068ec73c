import Recheck.Watch.Reactor
import Recheck.Watch.Watcher

/-!
# Watching a project

A watch session joins the parts: the watcher tells the reactor which files changed, and the
reactor runs its checks on a session of the project. Results become events with the time of the
clock; failures are handed on.
-/

namespace Recheck

/-- A request in the words of the journal. -/
def Request.text : Request → Text
  | single path => "SingleFile(path=" ++ Text.quoted path ++ [')']
  | changed paths => "ChangedSet(paths=" ++ Text.quotedRow paths ++ [')']
  | whole => "WholeProject()"

/-- What a watch session tells others. -/
inductive WatchNote
  | note (n : Note)
  | event (e : WatchEvent)
  | failure (f : Failure)

structure Watch (σ : Type) where
  session : Session σ
  reactor : Reactor := {}
  baseline : Watcher.Baseline := []
  /-- The time, in seconds since the epoch. -/
  clock : Number := .real 1700000000.5
  /-- Who takes the events, and may fail to. -/
  taker : WatchEvent → Except Failure Unit := fun _ => .ok ()
  /-- What others were told, the latest first. -/
  told : List WatchNote := []

namespace Watch

variable {σ : Type}

def tell (n : WatchNote) (w : Watch σ) : Watch σ := { w with told := n :: w.told }

def log (message : Text) (w : Watch σ) : Watch σ :=
  w.tell (.note (.entry ⟨.watch, .debug, message⟩))

/-- An activity of the session, whose notes are handed on. -/
def perform {α : Type} (activity : Activity σ α) : StateM (Watch σ) (Except Failure α) :=
  fun w =>
    let (result, session) := activity.run.run { w.session with notes := [] }
    (result, { w with session, told := session.notes.map .note ++ w.told })

def input (i : Reactor.Input) : StateM (Watch σ) Reactor.Effect := fun w =>
  let (reactor, effect) := w.reactor.step i
  (effect, { w with reactor })

/-- The collaborators of the reactor: the session runs the checks, others are told the rest. -/
def collaborators (p : Project σ) (disk : Disk) : Reactor.Collaborators (StateM (Watch σ)) :=
  { run := fun request => do
      modify (·.log ("Watch cycle: " ++ request.text))
      match ← perform (p.run disk request) with
      | .ok report => return .result report
      | .error failure =>
        if failure.isHandled then modify (·.log ("Watch cycle failed: " ++ failure.message))
        return .raised failure
    deliver := fun report => do
      let w ← get
      match w.clock.toMillis with
      | .error fault => return .raised (.arithmetic fault)
      | .ok timestamp =>
        match w.taker { timestamp, report } with
        | .error failure => return .raised failure
        | .ok () =>
          modify (·.tell (.event { timestamp, report }))
          return .returned
    report := fun failure => do
      modify (·.tell (.failure failure))
      return .returned }

/-- A cycle from its start to its end. -/
def complete (p : Project σ) (disk : Disk) (effect : Reactor.Effect) :
    StateM (Watch σ) Reactor.Effect :=
  Reactor.complete input (collaborators p disk) effect

/-- Whether one pending file is a source file that exists. -/
def isRoot (p : Project σ) (disk : Disk) : List Text → StateM (Watch σ) (Except Failure Bool)
  | [path] =>
    if disk.isFile (Path.join p.directory path) then perform (p.isRootFile disk path)
    else return .ok false
  | _ => return .ok false

/-- The failure that an effect lets out. -/
def escape : Reactor.Effect → Except Failure Unit
  | .escaped failure => .error failure
  | _ => .ok ()

def expire (p : Project σ) (disk : Disk) (timer : Nat) :
    StateM (Watch σ) (Except Failure Unit) := do
  match (← get).reactor.due? timer with
  | none => return .ok ()
  | some pending =>
    let answer ← isRoot p disk pending
    return escape (← complete p disk (← input (.expire timer answer)))

/-- Some timers run out one after the other, until one of them lets a failure out. -/
def expireAll (p : Project σ) (disk : Disk) : List Nat → StateM (Watch σ) (Except Failure Unit)
  | [] => return .ok ()
  | timer :: timers => do
    let _ ← input (.markFired timer)
    match ← expire p disk timer with
    | .ok () => expireAll p disk timers
    | .error failure => return .error failure

/-- All timers that may run out do so; their number. -/
def fire (p : Project σ) (disk : Disk) : StateM (Watch σ) (Except Failure Nat) := do
  let timers := (← get).reactor.liveTimers
  return (← expireAll p disk timers).map fun () => timers.length

/-- A file changed; the reactor is told. The watcher has this as its listener. -/
def notify (path : Text) : StateM (Watch σ) (Except Failure Unit) := do
  return escape (← input (.notify path))

/-- A look at the files, of which the reactor is told. -/
def poll (disk : Disk) (patterns paths : List Text) :
    StateM (Watch σ) (Except Failure (List Text)) := do
  let now := Watcher.scan disk patterns paths
  let look ← Watcher.tellDifference notify (← get).baseline now
  modify fun w =>
    { w with
      baseline := look.baseline
      told := (look.entries.map (.note ∘ .entry)).reverse ++ w.told }
  return look.changed

/-- Watching begins, with a check of the whole project if it is wanted. -/
def start (p : Project σ) (disk : Disk) (patterns paths : List Text) (initial : Bool) :
    StateM (Watch σ) (Except Failure Unit) := do
  modify fun w => { w with baseline := Watcher.scan disk patterns paths }
  if initial then return escape (← complete p disk (← input (.trigger .whole)))
  return .ok ()

def stop : StateM (Watch σ) Unit := do
  let _ ← input .close

end Watch

end Recheck
