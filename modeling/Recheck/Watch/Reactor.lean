import Recheck.Session.Query

/-!
# The reactor

The reactor turns notifications about files into checks. A burst of notifications starts a check
once files have been left alone for a while, and what changes during a check waits for its end.

The reactor is a machine. It advances by inputs, each of which is handled at once and whole:
notifications, requests, timers that run out, answers of its collaborators, and its closing. It
tells what is to be done next by an effect. A check that was started is a cycle; the cycle asks
for a run, then for the delivery of its result or the report of its failure, and ends when it is
settled.

Timers call from threads of their own, and the lock is held for a change of the state alone. What
another thread can do between two such changes is a matter of the order of the inputs; what it
can do between a change and the call to a collaborator that follows it is left out. The changes
when a timer runs out and the call of the run are one input, and so are the test whether the
reactor is closed, the reading of the clock and the call of the delivery: a closing that falls
between that test and that call comes after both of them here.
-/

namespace Recheck

/-- A timer of the reactor. Timers are numbered in the order in which they are started. -/
structure Timer where
  /-- The seconds after which it runs out. -/
  delay : Float
  /-- The generation that its callback was given. -/
  generation : Nat
  cancelled : Bool := false
  fired : Bool := false
  deriving DecidableEq, Repr

/-- Whether the timer may still run out by itself. -/
def Timer.isLive (t : Timer) : Bool := !t.cancelled && !t.fired

inductive Phase
  | idle
  /-- Files changed; the timer ends the burst, if its callback has the generation. -/
  | debouncing (pending : List Text) (timer : Nat) (generation : Nat)
  /-- A check is under way; the files that change meanwhile wait. -/
  | checking (request : Request) (queued : List Text)
  deriving DecidableEq, Repr

/-- Where a cycle stands: what it has asked for and waits for. -/
inductive Awaiting
  /-- The result of its run. -/
  | running
  /-- The delivery of the result. -/
  | delivering
  /-- The report of the failure of the run. -/
  | reportingRun
  /-- The report of the failure of the delivery. -/
  | reportingDelivery
  deriving DecidableEq, Repr

/-- A cycle that is not settled. -/
structure Cycle where
  ticket : Nat
  request : Request
  awaiting : Awaiting
  deriving DecidableEq, Repr

structure Reactor where
  /-- How long files must be left alone before a burst ends, in milliseconds. -/
  debounceMillis : Number := .whole 50
  phase : Phase := .idle
  closed : Bool := false
  timers : List Timer := []
  /-- The last generation that was handed out. -/
  generation : Nat := 0
  /-- The number of cycles that were started. -/
  started : Nat := 0
  cycles : List Cycle := []
  deriving DecidableEq, Repr

namespace Reactor

inductive Answer
  /-- The result of a run. -/
  | result (report : Report)
  /-- A delivery or a report was taken. -/
  | returned
  /-- The collaborator failed. -/
  | raised (failure : Failure)

inductive Input
  | notify (path : Text)
  /-- A check is asked for right away. -/
  | trigger (request : Request)
  /-- The scheduler takes a timer for fired. -/
  | markFired (timer : Nat)
  /-- A timer runs out. Where one file is pending, the input tells whether it is a source file
  that exists, or why that is not known. -/
  | expire (timer : Nat) (isRoot : Except Failure Bool)
  /-- A collaborator answers what a cycle asked for. -/
  | answered (ticket : Nat) (answer : Answer)
  /-- No more events are wanted. -/
  | close

inductive Effect
  | done
  /-- The request for a check is declined. -/
  | declined
  /-- A check is to be run. -/
  | run (ticket : Nat) (request : Request)
  /-- The result of a check is to be delivered. -/
  | deliver (ticket : Nat) (report : Report)
  /-- A failure is to be reported. -/
  | report (ticket : Nat) (failure : Failure)
  | settled (ticket : Nat)
  /-- A failure leaves the reactor. -/
  | escaped (failure : Failure)

/-- The paths with one more at the end, unless it is among them. -/
def appendUnique (paths : List Text) (path : Text) : List Text :=
  if path ∈ paths then paths else paths ++ [path]

def cancel (r : Reactor) (timer : Nat) : Reactor :=
  { r with timers := r.timers.modify timer fun t => { t with cancelled := true } }

def markFired (r : Reactor) (timer : Nat) : Reactor :=
  { r with timers := r.timers.modify timer fun t => { t with fired := true } }

/-- The reactor with the next generation handed out. -/
def count (r : Reactor) : Reactor := { r with generation := r.generation + 1 }

/-- The reactor with a new timer that ends a burst and has the last generation. -/
def debounce (r : Reactor) (pending : List Text) (delay : Float) : Reactor :=
  { r with
    phase := .debouncing pending r.timers.length r.generation
    timers := r.timers ++ [{ delay, generation := r.generation }] }

/-- The reactor after a burst was to go on, and what is to be done next: `effect`, unless no timer
can run for the debounce time. The generation is handed out in both cases. -/
def debounceThen (r : Reactor) (pending : List Text) (effect : Effect) : Reactor × Effect :=
  match r.debounceMillis.thousandth with
  | .ok delay => (r.count.debounce pending delay, effect)
  | .error fault => (r.count, .escaped (.arithmetic fault))

def notify (r : Reactor) (path : Text) : Reactor × Effect :=
  if r.closed then (r, .done)
  else
    match r.phase with
    | .idle => r.debounceThen [path] .done
    | .debouncing pending timer _ =>
      (r.cancel timer).debounceThen (appendUnique pending path) .done
    | .checking request queued =>
      ({ r with phase := .checking request (appendUnique queued path) }, .done)

/-- The reactor with a cycle started. -/
def start (r : Reactor) (request : Request) : Reactor × Effect :=
  ({ r with
      phase := .checking request []
      started := r.started + 1
      cycles := ⟨r.started, request, .running⟩ :: r.cycles },
    .run r.started request)

def trigger (r : Reactor) (request : Request) : Reactor × Effect :=
  if r.closed then (r, .declined)
  else
    match r.phase with
    | .idle => r.start request
    | _ => (r, .declined)

/-- The files that a check is to be started for when a timer runs out, unless the callback has an
earlier generation than the burst. -/
def due? (r : Reactor) (timer : Nat) : Option (List Text) :=
  if r.closed then none
  else
    match r.phase, r.timers[timer]? with
    | .debouncing pending _ generation, some t =>
      if t.generation = generation then some pending else none
    | _, _ => none

/-- The check for changed files: of one file by itself if it is a source file, else of the set,
which passes over files that are none. -/
def requestFor (pending : List Text) (isRoot : Bool) : Request :=
  match pending, isRoot with
  | [path], true => .single path
  | paths, _ => .changed paths

def expire (r : Reactor) (timer : Nat) (isRoot : Except Failure Bool) : Reactor × Effect :=
  match r.due? timer with
  | none => (r, .done)
  | some pending =>
    match isRoot with
    | .ok isRoot => r.start (requestFor pending isRoot)
    | .error failure => (r, .escaped failure)

/-- The reactor after its closing; a timer that runs is cancelled. -/
def close (r : Reactor) : Reactor :=
  match r.phase with
  | .debouncing _ timer _ => { r.cancel timer with closed := true, phase := .idle }
  | _ => { r with closed := true }

def cycle? (r : Reactor) (ticket : Nat) : Option Cycle :=
  r.cycles.find? fun c => c.ticket = ticket

def drop (r : Reactor) (ticket : Nat) : Reactor :=
  { r with cycles := r.cycles.filter fun c => c.ticket ≠ ticket }

/-- The reactor with a cycle waiting for something else. -/
def advance (r : Reactor) (ticket : Nat) (awaiting : Awaiting) : Reactor :=
  { r with cycles := r.cycles.map fun c => if c.ticket = ticket then { c with awaiting } else c }

/-- The reactor after a cycle ended, and what is to be done next: files that changed meanwhile
start a burst, and where they cannot, that comes before `effect`. -/
def settle (r : Reactor) (ticket : Nat) (effect : Effect) : Reactor × Effect :=
  let r := r.drop ticket
  match r.phase with
  | .checking _ (path :: queued) =>
    if r.closed then ({ r with phase := .idle }, effect)
    else r.debounceThen (path :: queued) effect
  | _ => ({ r with phase := .idle }, effect)

/-- The reactor after an answer to a cycle. A failure of the run is reported, and so is a failure
of the delivery; a failure of the report leaves the reactor, and when it is about the run, the
cycle is not settled. -/
def answer (r : Reactor) (cycle : Cycle) (a : Answer) : Reactor × Effect :=
  let ticket := cycle.ticket
  match cycle.awaiting, a with
  | .running, .result report =>
    if r.closed then r.settle ticket (.settled ticket)
    else (r.advance ticket .delivering, .deliver ticket report)
  | .running, .returned => r.settle ticket (.settled ticket)
  | .running, .raised failure =>
    if failure.isHandled then (r.advance ticket .reportingRun, .report ticket failure)
    else (r.drop ticket, .escaped failure)
  | .delivering, .raised failure =>
    if failure.isHandled then (r.advance ticket .reportingDelivery, .report ticket failure)
    else r.settle ticket (.escaped failure)
  | .delivering, _ => r.settle ticket (.settled ticket)
  | .reportingRun, .raised failure => (r.drop ticket, .escaped failure)
  | .reportingRun, _ => r.settle ticket (.settled ticket)
  | .reportingDelivery, .raised failure => r.settle ticket (.escaped failure)
  | .reportingDelivery, _ => r.settle ticket (.settled ticket)

/-- The reactor after an input, and what is to be done next. -/
def step (r : Reactor) : Input → Reactor × Effect
  | .notify path => r.notify path
  | .trigger request => r.trigger request
  | .markFired timer => (r.markFired timer, .done)
  | .expire timer isRoot => r.expire timer isRoot
  | .answered ticket a =>
    match r.cycle? ticket with
    | some cycle => r.answer cycle a
    | none => (r, .done)
  | .close => (r.close, .done)

/-- The numbers of the timers that may still run out by themselves. -/
def liveTimers (r : Reactor) : List Nat :=
  (List.range r.timers.length).filter fun i => r.timers[i]?.any Timer.isLive

/-- The collaborators of a reactor: who runs checks, who takes events, and who takes failures. -/
structure Collaborators (m : Type → Type) where
  run : Request → m Answer
  deliver : Report → m Answer
  report : Failure → m Answer

section

variable {m : Type → Type} [Monad m]

/-- What is left of a cycle once the failure that it wants to report was reported. -/
def afterReport (input : Input → m Effect) (c : Collaborators m) : Effect → m Effect
  | .report ticket failure => do input (.answered ticket (← c.report failure))
  | effect => pure effect

/-- What is left of a cycle once the result that it wants to deliver was delivered. -/
def afterDelivery (input : Input → m Effect) (c : Collaborators m) : Effect → m Effect
  | .deliver ticket report => do
    afterReport input c (← input (.answered ticket (← c.deliver report)))
  | effect => afterReport input c effect

/-- What is left of a cycle once the check that it wants to run was run. -/
def complete (input : Input → m Effect) (c : Collaborators m) : Effect → m Effect
  | .run ticket request => do
    afterDelivery input c (← input (.answered ticket (← c.run request)))
  | effect => pure effect

end

end Reactor

end Recheck
