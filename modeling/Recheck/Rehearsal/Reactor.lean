import Recheck.Rehearsal.Stage
import Recheck.Watch.Reactor

/-!
# Rehearsals of the reactor

A reactor whose collaborators follow a plan: what they do, what they answer, and how they fail.
While a check is under way the collaborators take steps of their own. None of those starts
another check, so they are taken without collaborators.
-/

namespace Recheck.Rehearsal

inductive Breakdown
  | crash (reason : Text)
  | interrupt

mutual

/-- A step of a rehearsal; collaborators can take the same steps. -/
inductive ReactorStep
  | edit (e : Edit)
  | notify (path : Text)
  | fire
  | fireTimer (timer : Nat)
  | trigger (request : Request)
  | close
  | exclude (path : Text)
  | rootError (reason : Option Text)
  | clock (reading : Number)
  | plan (p : Plan)

/-- What the collaborators do next; each entry is used once. -/
structure Plan where
  during : List ReactorStep := []
  error : Option Breakdown := none
  result : Option Report := none
  onEvent : List ReactorStep := []
  eventError : Option Text := none
  onError : List ReactorStep := []
  reportError : Option Text := none

end

inductive ReactorAnswer
  | nothing
  | truth (b : Bool)
  | count (n : Nat)

/-- The outcome of a step inside a check, with the phase of the reactor after it. -/
structure InnerOutcome where
  answer : Except Failure ReactorAnswer
  phase : Phase

structure Scene where
  stage : Stage
  reactor : Reactor := {}
  plan : Plan := {}
  excluded : List Text := []
  rootError : Option Text := none
  clock : Number := .real 1700000000.5
  /-- Whether failures are taken by someone; else they go into the journal. -/
  reports : Bool := true
  /-- What was seen, the latest first. -/
  requests : List Request := []
  events : List WatchEvent := []
  errors : List Text := []
  inner : List InnerOutcome := []
  entries : List Entry := []

namespace Scene

def input (i : Reactor.Input) : StateM Scene Reactor.Effect := fun s =>
  let (reactor, effect) := s.reactor.step i
  (effect, { s with reactor })

/-- Whether one pending file is a source file that exists, as the scene has it. -/
def isRoot (s : Scene) : List Text → Except Failure Bool
  | [path] =>
    if s.stage.disk.isFile path then
      match s.rootError with
      | some reason => .error (.crash reason)
      | none => .ok !(s.excluded.contains path)
    else .ok false
  | _ => .ok false

def expire (timer : Nat) : StateM Scene Reactor.Effect := do
  let s ← get
  match s.reactor.due? timer with
  | none => return .done
  | some pending => input (.expire timer (s.isRoot pending))

/-- What a step gives when it has ended with an effect. -/
def answerOf (answer : ReactorAnswer) : Reactor.Effect → Except Failure ReactorAnswer
  | .escaped failure => .error failure
  | _ => .ok answer

/-- Some timers run out one after the other, until one of them lets a failure out. -/
def expireAll (finish : Reactor.Effect → StateM Scene Reactor.Effect) (answer : ReactorAnswer) :
    List Nat → StateM Scene (Except Failure ReactorAnswer)
  | [] => return .ok answer
  | timer :: timers => do
    let _ ← input (.markFired timer)
    match answerOf answer (← finish (← expire timer)) with
    | .ok _ => expireAll finish answer timers
    | .error failure => return .error failure

/-- A step, where `finish` takes a cycle to its end. -/
def take (finish : Reactor.Effect → StateM Scene Reactor.Effect) :
    ReactorStep → StateM Scene (Except Failure ReactorAnswer)
  | .edit e => do
    modify fun s => { s with stage := s.stage.apply e }
    return .ok .nothing
  | .notify path => do return answerOf .nothing (← input (.notify path))
  | .fire => do
    let timers := (← get).reactor.liveTimers
    expireAll finish (.count timers.length) timers
  | .fireTimer timer => do
    return answerOf .nothing (← finish (← expire timer))
  | .trigger request => do
    match ← input (.trigger request) with
    | .declined => return .ok (.truth false)
    | effect => return answerOf (.truth true) (← finish effect)
  | .close => do
    let _ ← input .close
    return .ok .nothing
  | .exclude path => do
    modify fun s => { s with excluded := path :: s.excluded }
    return .ok .nothing
  | .rootError reason => do
    modify fun s => { s with rootError := reason }
    return .ok .nothing
  | .clock reading => do
    modify fun s => { s with clock := reading }
    return .ok .nothing
  | .plan plan => do
    modify fun s => { s with plan }
    return .ok .nothing

def takeInner : List ReactorStep → StateM Scene Unit
  | [] => return ()
  | step :: steps => do
    let answer ← take pure step
    modify fun s => { s with inner := ⟨answer, s.reactor.phase⟩ :: s.inner }
    takeInner steps

/-- A check: its steps, then its failure or its result. -/
def run (request : Request) : StateM Scene Reactor.Answer := do
  let steps := (← get).plan.during
  modify fun s =>
    { s with requests := request :: s.requests, plan := { s.plan with during := [] } }
  takeInner steps
  let error := (← get).plan.error
  modify fun s => { s with plan := { s.plan with error := none } }
  match error with
  | some (.crash reason) => return .raised (.crash reason)
  | some .interrupt => return .raised .interrupted
  | none =>
    let report := (← get).plan.result.getD {}
    modify fun s => { s with plan := { s.plan with result := none } }
    return .result report

/-- The delivery of an event: its steps, then its failure or the record of the event. -/
def deliver (report : Report) : StateM Scene Reactor.Answer := do
  match (← get).clock.toMillis with
  | .error fault => return .raised (.arithmetic fault)
  | .ok timestamp =>
    let steps := (← get).plan.onEvent
    modify fun s => { s with plan := { s.plan with onEvent := [] } }
    takeInner steps
    let error := (← get).plan.eventError
    modify fun s => { s with plan := { s.plan with eventError := none } }
    match error with
    | some reason => return .raised (.crash reason)
    | none =>
      modify fun s => { s with events := { timestamp, report } :: s.events }
      return .returned

/-- The report of a failure: its record, its steps, then its own failure. -/
def report (failure : Failure) : StateM Scene Reactor.Answer := do
  if (← get).reports then
    let steps := (← get).plan.onError
    modify fun s =>
      { s with errors := failure.message :: s.errors, plan := { s.plan with onError := [] } }
    takeInner steps
    let error := (← get).plan.reportError
    modify fun s => { s with plan := { s.plan with reportError := none } }
    match error with
    | some reason => return .raised (.crash reason)
    | none => return .returned
  else
    let entry : Entry := ⟨.watch, .error, "Watch cycle failed: " ++ failure.message⟩
    modify fun s => { s with entries := entry :: s.entries }
    return .returned

def complete (effect : Reactor.Effect) : StateM Scene Reactor.Effect :=
  Reactor.complete input { run, deliver, report } effect

def step : ReactorStep → StateM Scene (Except Failure ReactorAnswer) := take complete

end Scene

end Recheck.Rehearsal
