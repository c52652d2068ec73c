import Mathlib.Logic.Relation
import Recheck.Proofs.Polls
import Recheck.Proofs.Queries
import Recheck.Proofs.ReactorRuns
import Recheck.Watch.Session

/-!
Watching in steps. The disk changes, the watcher looks at it, timers run out, and checks are run, in
any order. What a watch session does by itself is so many steps. The run of a check is one step and
reads one disk, and so is a look of the watcher: edits that fall between the readings of one run or
of one look are left out.
-/

namespace Recheck.Proofs.WatchSteps

open Recheck.Reactor
open Recheck.Proofs.Activities
open Recheck.Proofs.Polls (Uninterrupted hear run_bind tellAll_of_uninterrupted)
open Recheck.Proofs.Programs
open Recheck.Proofs.Queries
open Recheck.Proofs.ReactorRuns
open Recheck.Proofs.Scans

variable {σ : Type}

/-- A watch session on its disk. The disks that were there before since the watcher last looked
come with it, the latest first. -/
structure Moment (σ : Type) where
  disk : Disk
  recent : List Disk := []
  watch : Watch σ

/-- The disks since the watcher last looked, that of the look included. -/
def Moment.disks (m : Moment σ) : List Disk := m.disk :: m.recent

/-- The disk at which the watcher last looked. -/
def Moment.looked (m : Moment σ) : Disk := m.disks.getLast (List.cons_ne_nil _ _)

/-- The moment after something that the watch session does. -/
def Moment.does {α : Type} (m : Moment σ) (x : StateM (Watch σ) α) : Moment σ :=
  { m with watch := (x.run m.watch).2 }

/-- Where a disk has another file than the moment before, the file has a time that it did not have
since the watcher last looked. -/
def Fresh (m : Moment σ) (disk : Disk) : Prop :=
  ∀ path, disk.node? path = m.disk.node? path ∨
    ∀ time, disk.changed? path = some time → ∀ before ∈ m.disks, before.changed? path ≠ some time

/-- What can happen next. The start of a check, its run, and the delivery of its result or the
report of a failure are steps of their own, so other things can happen between them. -/
inductive Step (p : Project σ) (root patterns : List Text) : Moment σ → Moment σ → Prop
  | edit {m : Moment σ} {disk : Disk} (htree : PlainTree root disk) (hfresh : Fresh m disk) :
      Step p root patterns m { m with disk, recent := m.disks }
  /-- The world and the clock go on, and who takes the events changes. -/
  | outside (m : Moment σ) (world : σ) (clock : Number) (taker : WatchEvent → Except Failure Unit) :
      Step p root patterns m
        { m with watch := { m.watch with session := { m.watch.session with world }, clock, taker } }
  | poll (m : Moment σ) :
      Step p root patterns m { m.does (Watch.poll m.disk patterns [p.root]) with recent := [] }
  | trigger (m : Moment σ) (request : Request) :
      Step p root patterns m (m.does (Watch.input (.trigger request)))
  | markFired (m : Moment σ) (timer : Nat) :
      Step p root patterns m (m.does (Watch.input (.markFired timer)))
  | expire {m : Moment σ} {timer : Nat} {pending : List Text}
      (hdue : m.watch.reactor.due? timer = some pending) :
      Step p root patterns m (m.does do
        Watch.input (.expire timer (← Watch.isRoot p m.disk pending)))
  | run {m : Moment σ} {ticket : Nat} {c : Cycle} (hc : m.watch.reactor.cycle? ticket = some c)
      (hrunning : c.awaiting = .running) :
      Step p root patterns m (m.does do
        Watch.input (.answered ticket (← (Watch.collaborators p m.disk).run c.request)))
  | deliver {m : Moment σ} {ticket : Nat} {c : Cycle} (hc : m.watch.reactor.cycle? ticket = some c)
      (hdelivering : c.awaiting = .delivering) (report : Report) :
      Step p root patterns m (m.does do
        Watch.input (.answered ticket (← (Watch.collaborators p m.disk).deliver report)))
  | report {m : Moment σ} {ticket : Nat} {c : Cycle} (hc : m.watch.reactor.cycle? ticket = some c)
      (hreporting : c.awaiting = .reportingRun ∨ c.awaiting = .reportingDelivery)
      (failure : Failure) :
      Step p root patterns m (m.does do
        Watch.input (.answered ticket (← (Watch.collaborators p m.disk).report failure)))
  /-- The session is asked by someone else. -/
  | query (m : Moment σ) (request : Request) :
      Step p root patterns m (m.does (Watch.perform (p.run m.disk request)))
  | stop (m : Moment σ) : Step p root patterns m (m.does Watch.stop)

/-- A watch session whose watching has begun on a disk, before anything was checked. -/
def begun (p : Project σ) (patterns : List Text) (disk : Disk) (w : Watch σ) : Moment σ :=
  Moment.does { disk, watch := w } (Watch.start p disk patterns [p.root] false)

/-- The one watch session has a session that the other one may not have; besides, the two differ
in what was told at most. -/
structure Leaves (s : Session σ) (w w' : Watch σ) : Prop where
  session : w'.session = s
  reactor : w'.reactor = w.reactor
  baseline : w'.baseline = w.baseline

theorem leaves_perform {α : Type} (activity : Activity σ α) (w : Watch σ) :
    Leaves (outcome activity { w.session with notes := [] }).2 w
      ((Watch.perform activity).run w).2 :=
  ⟨rfl, rfl, rfl⟩

theorem leaves_run (p : Project σ) (disk : Disk) (request : Request) (w : Watch σ) :
    Leaves (outcome (p.run disk request) { w.session with notes := [] }).2 w
      (((Watch.collaborators p disk).run request).run w).2 := by
  have hperformed : Leaves (outcome (p.run disk request) { w.session with notes := [] }).2 w
      ((Watch.perform (p.run disk request)).run
        (w.log ("Watch cycle: ".toList ++ request.text))).2 := ⟨rfl, rfl, rfl⟩
  have hlogged : (StateT.run (m := Id) (modify fun w : Watch σ =>
      w.log ("Watch cycle: ".toList ++ request.text)) w).2 =
        w.log ("Watch cycle: ".toList ++ request.text) := rfl
  simp only [Watch.collaborators]
  rw [run_bind, run_bind, hlogged]
  generalize (Watch.perform (p.run disk request)).run
    (w.log ("Watch cycle: ".toList ++ request.text)) = performed at hperformed ⊢
  rcases performed with ⟨failure | report, w'⟩
  · dsimp only
    split
    · exact ⟨hperformed.session, hperformed.reactor, hperformed.baseline⟩
    · exact hperformed
  · exact hperformed

theorem leaves_deliver (p : Project σ) (disk : Disk) (report : Report) (w : Watch σ) :
    Leaves w.session w (((Watch.collaborators p disk).deliver report).run w).2 := by
  simp only [Watch.collaborators]
  rw [run_bind]
  split
  · exact ⟨rfl, rfl, rfl⟩
  · split <;> exact ⟨rfl, rfl, rfl⟩

theorem leaves_report (p : Project σ) (disk : Disk) (failure : Failure) (w : Watch σ) :
    Leaves w.session w (((Watch.collaborators p disk).report failure).run w).2 :=
  ⟨rfl, rfl, rfl⟩

theorem keeps_isRootFile (p : Project σ) (disk : Disk) (path : Text) :
    Keeps (p.isRootFile disk path) := by
  refine (keeps_lift _).bind fun file => Keeps.bind (fun s => ?_) fun paths => keeps_pure _
  obtain ⟨w, hroots⟩ := outcome_rootFiles p disk s
  rw [hroots]
  exact ⟨rfl, rfl⟩

theorem leaves_isRoot (p : Project σ) (disk : Disk) (pending : List Text) (w : Watch σ) :
    ∃ s, s.store = w.session.store ∧ Leaves s w ((Watch.isRoot p disk pending).run w).2 := by
  unfold Watch.isRoot
  split
  · next path =>
      split
      · exact ⟨_, (keeps_isRootFile p disk path { w.session with notes := [] }).1,
          leaves_perform _ w⟩
      · exact ⟨w.session, rfl, rfl, rfl, rfl⟩
  · exact ⟨w.session, rfl, rfl, rfl, rfl⟩

theorem uninterrupted_notify : Uninterrupted (Watch.notify : Text → StateM (Watch σ) _) := by
  intro path w failure h
  have hescape : Watch.escape (w.reactor.notify path).2 = .error failure := h
  have hthen : ∀ (r : Reactor) (pending : List Text),
      Watch.escape (r.debounceThen pending .done).2 = .error failure →
        failure.isHandled = true := by
    intro r pending heq
    rcases debounceThen_cases r pending .done with ⟨delay, -, hcase⟩ | ⟨fault, -, hcase⟩
    · rw [hcase] at heq
      cases heq
    · rw [hcase] at heq
      obtain rfl := Except.error.inj heq
      rfl
  unfold Reactor.notify at hescape
  split at hescape
  · cases hescape
  · split at hescape
    · exact hthen _ _ hescape
    · exact hthen _ _ hescape
    · cases hescape

theorem hear_notify (paths : List Text) (w : Watch σ) :
    hear Watch.notify paths w =
      { w with reactor := ReactorRuns.run w.reactor (paths.map .notify) } := by
  induction paths generalizing w with
  | nil => rfl
  | cons path paths ih =>
      rw [List.map_cons, run_cons]
      exact ih { w with reactor := (w.reactor.step (.notify path)).1 }

theorem poll_eq (disk : Disk) (patterns paths : List Text) (w : Watch σ) :
    ((Watch.poll disk patterns paths).run w).2.session = w.session ∧
      ((Watch.poll disk patterns paths).run w).2.baseline = Watcher.scan disk patterns paths ∧
      ((Watch.poll disk patterns paths).run w).2.reactor =
        ReactorRuns.run w.reactor ((Watcher.difference w.baseline
          (Watcher.scan disk patterns paths)).map .notify) := by
  obtain ⟨told, hpoll⟩ : ∃ told, ((Watch.poll disk patterns paths).run w).2 =
      { ((Watcher.tellAll Watch.notify (Watcher.difference w.baseline
          (Watcher.scan disk patterns paths))).run w).2 with
        baseline := Watcher.scan disk patterns paths, told } := ⟨_, rfl⟩
  rw [hpoll, (tellAll_of_uninterrupted uninterrupted_notify _ w).2, hear_notify]
  exact ⟨rfl, rfl, rfl⟩

section

variable {p : Project σ} {root patterns : List Text} {m : Moment σ}

theorem does_bind {α β : Type} (m : Moment σ) (x : StateM (Watch σ) α)
    (f : α → StateM (Watch σ) β) : m.does (x >>= f) = (m.does x).does (f (x.run m.watch).1) := rfl

theorem reactor_input {β : Type} {x : StateM (Watch σ) β} {s : Session σ}
    (hleaves : Leaves s m.watch (x.run m.watch).2) (i : β → Input) :
    (m.does do Watch.input (i (← x))).watch.reactor =
      (m.watch.reactor.step (i (x.run m.watch).1)).1 := by
  rw [← hleaves.reactor]
  rfl

theorem reactor_of_step {m' : Moment σ} (hstep : Step p root patterns m m') :
    ∃ inputs, m'.watch.reactor = ReactorRuns.run m.watch.reactor inputs := by
  cases hstep with
  | edit | outside | query => exact ⟨[], rfl⟩
  | poll => exact ⟨_, (poll_eq m.disk patterns [p.root] m.watch).2.2⟩
  | trigger request => exact ⟨[.trigger request], rfl⟩
  | markFired timer => exact ⟨[.markFired timer], rfl⟩
  | stop => exact ⟨[.close], rfl⟩
  | expire hdue =>
      obtain ⟨s, -, hleaves⟩ := leaves_isRoot p m.disk _ m.watch
      exact ⟨[_], reactor_input hleaves (Input.expire _)⟩
  | run hc => exact ⟨[_], reactor_input (leaves_run p m.disk _ m.watch) (Input.answered _)⟩
  | deliver hc => exact ⟨[_], reactor_input (leaves_deliver p m.disk _ m.watch) (Input.answered _)⟩
  | report hc => exact ⟨[_], reactor_input (leaves_report p m.disk _ m.watch) (Input.answered _)⟩

theorem reactor_of_steps {m' : Moment σ}
    (hsteps : Relation.ReflTransGen (Step p root patterns) m m') :
    ∃ inputs, m'.watch.reactor = ReactorRuns.run m.watch.reactor inputs := by
  induction hsteps with
  | refl => exact ⟨[], rfl⟩
  | tail _ hstep ih =>
      obtain ⟨inputs, hinputs⟩ := ih
      obtain ⟨more, hmore⟩ := reactor_of_step hstep
      exact ⟨inputs ++ more, by rw [hmore, hinputs, run_append]⟩

theorem closed_of_step {m' : Moment σ} (hstep : Step p root patterns m m')
    (h : m.watch.reactor.closed = true) : m'.watch.reactor.closed = true := by
  obtain ⟨inputs, hinputs⟩ := reactor_of_step hstep
  rw [hinputs]
  exact run_induction (P := fun r => r.closed = true) (fun _ i hr => closed_step hr i) h inputs

theorem sound_of_steps {m' : Moment σ} (hsteps : Relation.ReflTransGen (Step p root patterns) m m')
    (h : Sound m.watch.reactor) : Sound m'.watch.reactor := by
  obtain ⟨inputs, hinputs⟩ := reactor_of_steps hsteps
  rw [hinputs]
  exact h.run inputs

/-- A cycle waits for what the effect wants done. -/
def Awaits (r : Reactor) : Effect → Prop
  | .run ticket request =>
    ∃ c, r.cycle? ticket = some c ∧ c.awaiting = .running ∧ c.request = request
  | .deliver ticket _ => ∃ c, r.cycle? ticket = some c ∧ c.awaiting = .delivering
  | .report ticket _ => ∃ c, r.cycle? ticket = some c ∧
      (c.awaiting = .reportingRun ∨ c.awaiting = .reportingDelivery)
  | _ => True

theorem awaits_debounceThen {effect : Effect} (h : ∀ r, Awaits r effect) (r : Reactor)
    (pending : List Text) :
    Awaits (r.debounceThen pending effect).1 (r.debounceThen pending effect).2 := by
  rcases debounceThen_cases r pending effect with ⟨delay, -, heq⟩ | ⟨fault, -, heq⟩
  · rw [heq]
    exact h _
  · rw [heq]
    trivial

theorem awaits_notify (r : Reactor) (path : Text) : Awaits (r.notify path).1 (r.notify path).2 := by
  have hdone : ∀ r, Awaits r .done := fun _ => trivial
  unfold notify
  split
  · trivial
  · split
    · exact awaits_debounceThen hdone r [path]
    · exact awaits_debounceThen hdone (r.cancel _) _
    · trivial

theorem awaits_start (r : Reactor) (request : Request) :
    Awaits (r.start request).1 (r.start request).2 := by
  simp [start, Awaits, cycle?]

theorem awaits_settle {effect : Effect} (h : ∀ r, Awaits r effect) (r : Reactor) (ticket : Nat) :
    Awaits (r.settle ticket effect).1 (r.settle ticket effect).2 := by
  rcases settle_cases r ticket effect with ⟨request, path, queued, -, -, heq⟩ | ⟨-, heq⟩
  · rw [heq]
    exact awaits_debounceThen h (r.drop ticket) (path :: queued)
  · rw [heq]
    exact h _

theorem awaits_of_continues {closed : Bool} {ticket : Nat} {w awaiting : Awaiting} {a : Answer}
    {effect : Effect} (h : turn closed ticket w a = .continues awaiting effect) {r : Reactor}
    {c : Cycle} (hc : r.cycle? ticket = some c) (hawaiting : c.awaiting = awaiting) :
    Awaits r effect := by
  unfold turn at h
  split at h <;> try split at h
  all_goals cases h <;> simp [Awaits, hc, hawaiting]

theorem awaits_of_settles {closed : Bool} {ticket : Nat} {w : Awaiting} {a : Answer}
    {effect : Effect} (h : turn closed ticket w a = .settles effect) (r : Reactor) :
    Awaits r effect := by
  unfold turn at h
  split at h <;> try split at h
  all_goals cases h <;> trivial

theorem awaits_answer {r : Reactor} (hsound : Sound r) {ticket : Nat} {c : Cycle}
    (hc : r.cycle? ticket = some c) (a : Answer) : Awaits (r.answer c a).1 (r.answer c a).2 := by
  obtain ⟨hcycles, -, -⟩ := hsound.of_cycle? hc
  rw [answer_eq]
  cases hturn : turn r.closed c.ticket c.awaiting a with
  | continues awaiting effect =>
      have hadvance : (r.advance c.ticket awaiting).cycle? c.ticket = some { c with awaiting } := by
        simp [advance, cycle?, hcycles]
      exact awaits_of_continues hturn hadvance rfl
  | settles effect => exact awaits_settle (awaits_of_settles hturn) r c.ticket
  | abandons failure => trivial

theorem awaits_step {r : Reactor} (hsound : Sound r) (i : Input) :
    Awaits (r.step i).1 (r.step i).2 := by
  cases i with
  | notify path => exact awaits_notify r path
  | trigger request =>
      simp only [step, trigger]
      split
      · trivial
      · split
        · exact awaits_start r request
        · trivial
  | markFired timer => trivial
  | expire timer isRoot =>
      simp only [step, expire]
      split
      · trivial
      · split
        · exact awaits_start r _
        · trivial
  | answered ticket a =>
      simp only [step]
      split
      · next c hc => exact awaits_answer hsound hc a
      · trivial
  | close => trivial

theorem awaits_input {β : Type} (hsound : Sound m.watch.reactor) {x : StateM (Watch σ) β}
    {s : Session σ} (hleaves : Leaves s m.watch (x.run m.watch).2) (i : β → Input) :
    Sound (m.does do Watch.input (i (← x))).watch.reactor ∧
      Awaits (m.does do Watch.input (i (← x))).watch.reactor
        (StateT.run (do Watch.input (i (← x))) m.watch).1 := by
  have hsound' : Sound (x.run m.watch).2.reactor := hleaves.reactor ▸ hsound
  exact ⟨hsound'.step (i (x.run m.watch).1), awaits_step hsound' (i (x.run m.watch).1)⟩

theorem steps_afterReport {effect : Effect} (h : Awaits m.watch.reactor effect) :
    Relation.ReflTransGen (Step p root patterns) m
      (m.does (Reactor.afterReport Watch.input (Watch.collaborators p m.disk) effect)) := by
  cases effect with
  | report ticket failure =>
      obtain ⟨c, hc, hreporting⟩ := h
      exact .single (.report hc hreporting failure)
  | done | declined | run | deliver | settled | escaped => exact .refl

theorem steps_afterDelivery (hsound : Sound m.watch.reactor) {effect : Effect}
    (h : Awaits m.watch.reactor effect) :
    Relation.ReflTransGen (Step p root patterns) m
      (m.does (Reactor.afterDelivery Watch.input (Watch.collaborators p m.disk) effect)) := by
  cases effect with
  | deliver ticket report =>
      obtain ⟨c, hc, hdelivering⟩ := h
      obtain ⟨-, hawaits⟩ := awaits_input hsound (leaves_deliver p m.disk report m.watch)
        (Input.answered ticket)
      exact .head (.deliver hc hdelivering report) (steps_afterReport hawaits)
  | report ticket failure => exact steps_afterReport h
  | done | declined | run | settled | escaped => exact .refl

/-- A cycle from its start to its end is a run of steps. -/
theorem steps_complete (hsound : Sound m.watch.reactor) {effect : Effect}
    (h : Awaits m.watch.reactor effect) :
    Relation.ReflTransGen (Step p root patterns) m (m.does (Watch.complete p m.disk effect)) := by
  cases effect with
  | run ticket request =>
      obtain ⟨c, hc, hrunning, rfl⟩ := h
      obtain ⟨hsound', hawaits⟩ := awaits_input hsound (leaves_run p m.disk c.request m.watch)
        (Input.answered ticket)
      exact .head (.run hc hrunning) (steps_afterDelivery hsound' hawaits)
  | done | declined | deliver | report | settled | escaped => exact .refl

theorem expire_cases (p : Project σ) (disk : Disk) (timer : Nat) (w : Watch σ) :
    (w.reactor.due? timer = none ∧ ((Watch.expire p disk timer).run w).2 = w) ∨
      ∃ pending, w.reactor.due? timer = some pending ∧
        ((Watch.expire p disk timer).run w).2 = (StateT.run (do
          Watch.complete p disk
            (← Watch.input (.expire timer (← Watch.isRoot p disk pending)))) w).2 := by
  unfold Watch.expire
  rw [run_bind]
  split
  · next hdue => exact .inl ⟨hdue, rfl⟩
  · next pending hdue => exact .inr ⟨pending, hdue, rfl⟩

theorem steps_expire (hsound : Sound m.watch.reactor) (timer : Nat) :
    Relation.ReflTransGen (Step p root patterns) m (m.does (Watch.expire p m.disk timer)) := by
  rcases expire_cases p m.disk timer m.watch with ⟨-, hrun⟩ | ⟨pending, hdue, hrun⟩
  · rw [Moment.does, hrun]
  · obtain ⟨s, -, hleaves⟩ := leaves_isRoot p m.disk pending m.watch
    obtain ⟨hsound', hawaits⟩ := awaits_input hsound hleaves (Input.expire timer)
    rw [Moment.does, hrun]
    exact .head (.expire hdue) (steps_complete hsound' hawaits)

theorem steps_expireAll (hsound : Sound m.watch.reactor) (timers : List Nat) :
    Relation.ReflTransGen (Step p root patterns) m (m.does (Watch.expireAll p m.disk timers)) := by
  induction timers generalizing m with
  | nil => exact .refl
  | cons timer timers ih =>
      have hfired : Relation.ReflTransGen (Step p root patterns) m
          ((m.does (Watch.input (.markFired timer))).does (Watch.expire p m.disk timer)) :=
        .head (.markFired m timer) (steps_expire (hsound.step (.markFired timer)) timer)
      unfold Watch.expireAll
      rw [does_bind, does_bind]
      split
      · exact hfired.trans (ih (sound_of_steps hfired hsound))
      · exact hfired

theorem steps_fire (hsound : Sound m.watch.reactor) :
    Relation.ReflTransGen (Step p root patterns) m (m.does (Watch.fire p m.disk)) :=
  steps_expireAll hsound m.watch.reactor.liveTimers

theorem steps_start {disk : Disk} {w : Watch σ} (hsound : Sound w.reactor) (initial : Bool) :
    Relation.ReflTransGen (Step p root patterns) (begun p patterns disk w)
      (Moment.does { disk, watch := w } (Watch.start p disk patterns [p.root] initial)) := by
  cases initial with
  | false => exact .refl
  | true =>
      have hsound' : Sound ((begun p patterns disk w).does
          (Watch.input (.trigger .whole))).watch.reactor := hsound.step (.trigger .whole)
      exact .head (.trigger (begun p patterns disk w) .whole)
        (steps_complete hsound' (awaits_step hsound (.trigger .whole)))

end

end Recheck.Proofs.WatchSteps
