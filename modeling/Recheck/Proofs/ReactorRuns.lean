import Recheck.Watch.Reactor

/-!
Runs of the reactor as lists of inputs. Collaborators may do anything between two inputs of a
cycle, so every order of inputs is a run, also one in which they call the reactor back.
-/

namespace Recheck.Proofs.ReactorRuns

open Recheck.Reactor

def run (r : Reactor) (inputs : List Input) : Reactor :=
  inputs.foldl (fun r i => (r.step i).1) r

@[simp]
theorem run_nil (r : Reactor) : run r [] = r := rfl

@[simp]
theorem run_cons (r : Reactor) (i : Input) (inputs : List Input) :
    run r (i :: inputs) = run (r.step i).1 inputs := rfl

theorem run_append (r : Reactor) (before after : List Input) :
    run r (before ++ after) = run (run r before) after :=
  List.foldl_append

/-- What every step preserves holds after every run. -/
theorem run_induction {P : Reactor → Prop} (hstep : ∀ r i, P r → P (r.step i).1)
    {r : Reactor} (h : P r) (inputs : List Input) : P (run r inputs) := by
  induction inputs generalizing r with
  | nil => exact h
  | cons i inputs ih => exact ih (hstep r i h)

def fresh (millis : Number) : Reactor := { debounceMillis := millis }

theorem due?_eq_some_iff (r : Reactor) (timer : Nat) (pending : List Text) :
    r.due? timer = some pending ↔
      r.closed = false ∧ ∃ current generation t, r.phase = .debouncing pending current generation ∧
        r.timers[timer]? = some t ∧ t.generation = generation := by
  unfold due?
  cases r.closed with
  | true => simp
  | false =>
      cases r.phase with
      | idle | checking => simp
      | debouncing held current generation =>
          cases r.timers[timer]? with
          | none => simp
          | some t => simp [and_comm, eq_comm]

theorem debounceThen_cases (r : Reactor) (pending : List Text) (effect : Effect) :
    (∃ delay, r.debounceMillis.thousandth = .ok delay ∧
      r.debounceThen pending effect = (r.count.debounce pending delay, effect)) ∨
    (∃ fault, r.debounceMillis.thousandth = .error fault ∧
      r.debounceThen pending effect = (r.count, .escaped (.arithmetic fault))) := by
  unfold debounceThen
  cases h : r.debounceMillis.thousandth with
  | ok delay => exact .inl ⟨delay, rfl, rfl⟩
  | error fault => exact .inr ⟨fault, rfl, rfl⟩

def Starts (effect : Effect) : Prop := ∃ ticket request, effect = .run ticket request

/-- What an answer does to the cycle that it is given to. -/
inductive Turn
  /-- The cycle asks for something else. -/
  | continues (awaiting : Awaiting) (effect : Effect)
  /-- The cycle ends and hands its files on. -/
  | settles (effect : Effect)
  /-- The cycle is given up: nobody ends its check. -/
  | abandons (failure : Failure)

/-- The turn that a cycle takes at an answer. Where the report about its run fails, or its run is
interrupted, the cycle is given up. -/
def turn (closed : Bool) (ticket : Nat) : Awaiting → Answer → Turn
  | .running, .result report =>
    if closed then .settles (.settled ticket) else .continues .delivering (.deliver ticket report)
  | .running, .raised failure =>
    if failure.isHandled then .continues .reportingRun (.report ticket failure)
    else .abandons failure
  | .delivering, .raised failure =>
    if failure.isHandled then .continues .reportingDelivery (.report ticket failure)
    else .settles (.escaped failure)
  | .reportingRun, .raised failure => .abandons failure
  | .reportingDelivery, .raised failure => .settles (.escaped failure)
  | _, _ => .settles (.settled ticket)

theorem answer_eq (r : Reactor) (c : Cycle) (a : Answer) :
    r.answer c a =
      match turn r.closed c.ticket c.awaiting a with
      | .continues awaiting effect => (r.advance c.ticket awaiting, effect)
      | .settles effect => r.settle c.ticket effect
      | .abandons failure => (r.drop c.ticket, .escaped failure) := by
  rcases c with ⟨ticket, request, awaiting⟩
  cases awaiting <;> cases a <;> simp only [answer, turn] <;> split <;> rfl

/-- What is done next after a turn that leaves the reactor open to changes. -/
def Turn.effect : Turn → Effect
  | .continues _ effect | .settles effect => effect
  | .abandons failure => .escaped failure

theorem not_starts_turn (closed : Bool) (ticket : Nat) (w : Awaiting) (a : Answer) :
    ¬ Starts (turn closed ticket w a).effect := by
  fun_cases turn closed ticket w a <;> simp [Turn.effect, Starts]

theorem settle_cases (r : Reactor) (ticket : Nat) (effect : Effect) :
    (∃ request path queued, r.phase = .checking request (path :: queued) ∧ r.closed = false ∧
      r.settle ticket effect = (r.drop ticket).debounceThen (path :: queued) effect) ∨
    ((∀ request queued, r.phase = .checking request queued → queued = [] ∨ r.closed = true) ∧
      r.settle ticket effect = ({ r.drop ticket with phase := .idle }, effect)) := by
  unfold settle drop
  cases hphase : r.phase with
  | idle => simp
  | debouncing pending timer generation => simp
  | checking request queued =>
      cases queued with
      | nil => simp
      | cons path queued =>
          cases hclosed : r.closed with
          | true => simp
          | false => exact .inl ⟨request, path, queued, rfl, rfl, by simp⟩

theorem not_starts_debounceThen {effect : Effect} (h : ¬ Starts effect) (r : Reactor)
    (pending : List Text) : ¬ Starts (r.debounceThen pending effect).2 := by
  rcases debounceThen_cases r pending effect with ⟨delay, -, heq⟩ | ⟨fault, -, heq⟩
  · rwa [heq]
  · simp [heq, Starts]

theorem not_starts_notify (r : Reactor) (path : Text) : ¬ Starts (r.notify path).2 := by
  have hdone : ¬ Starts .done := by simp [Starts]
  unfold notify
  split
  · exact hdone
  · split
    · exact not_starts_debounceThen hdone r [path]
    · exact not_starts_debounceThen hdone (r.cancel _) _
    · exact hdone

theorem not_starts_settle {effect : Effect} (h : ¬ Starts effect) (r : Reactor) (ticket : Nat) :
    ¬ Starts (r.settle ticket effect).2 := by
  rcases settle_cases r ticket effect with ⟨request, path, queued, -, -, heq⟩ | ⟨-, heq⟩
  · rw [heq]
    exact not_starts_debounceThen h (r.drop ticket) (path :: queued)
  · rwa [heq]

theorem not_starts_answer (r : Reactor) (c : Cycle) (a : Answer) : ¬ Starts (r.answer c a).2 := by
  have hturn := not_starts_turn r.closed c.ticket c.awaiting a
  rw [answer_eq]
  cases h : turn r.closed c.ticket c.awaiting a with
  | continues awaiting effect => simpa [h, Turn.effect] using hturn
  | settles effect => exact not_starts_settle (by simpa [h, Turn.effect] using hturn) r c.ticket
  | abandons failure => simp [Starts]

/-- The two ways in which a check starts: it is asked for while nothing is going on, or the timer
of a burst runs out. -/
theorem starts_cases {r : Reactor} {i : Input} {ticket : Nat} {request : Request}
    (h : (r.step i).2 = .run ticket request) :
    r.closed = false ∧ r.step i = r.start request ∧
      ((i = .trigger request ∧ r.phase = .idle) ∨
        ∃ timer pending current generation isRoot, i = .expire timer (.ok isRoot) ∧
          r.phase = .debouncing pending current generation ∧
            request = requestFor pending isRoot) := by
  cases i with
  | notify path => exact absurd ⟨ticket, request, h⟩ (not_starts_notify r path)
  | trigger request' =>
      simp only [step, trigger] at h ⊢
      cases hclosed : r.closed with
      | true => simp [hclosed] at h
      | false =>
          cases hphase : r.phase with
          | idle =>
              have hrequest : request' = request := by
                simp only [hclosed, hphase, start, Bool.false_eq_true, if_false,
                  Effect.run.injEq] at h
                exact h.2
              subst hrequest
              exact ⟨rfl, rfl, .inl ⟨rfl, rfl⟩⟩
          | debouncing pending timer generation => simp [hclosed, hphase] at h
          | checking request'' queued => simp [hclosed, hphase] at h
  | markFired timer => simp [step] at h
  | expire timer isRoot =>
      simp only [step, expire] at h ⊢
      cases hdue : r.due? timer with
      | none => simp [hdue] at h
      | some pending =>
          obtain ⟨hclosed, current, generation, -, hphase, -⟩ :=
            (due?_eq_some_iff r timer pending).mp hdue
          cases isRoot with
          | error failure => simp [hdue] at h
          | ok isRoot =>
              have hrequest : requestFor pending isRoot = request := by
                simp only [hdue, start, Effect.run.injEq] at h
                exact h.2
              subst hrequest
              exact ⟨hclosed, rfl, .inr ⟨timer, pending, current, _, isRoot, rfl, hphase, rfl⟩⟩
  | answered ticket' a =>
      simp only [step] at h
      cases hc : r.cycle? ticket' with
      | none => simp [hc] at h
      | some c =>
          simp only [hc] at h
          exact absurd ⟨ticket, request, h⟩ (not_starts_answer r c a)
  | close => simp [step] at h

/-- Two states of one reactor, between which it was not closed. -/
def SameSetup (r r' : Reactor) : Prop :=
  r'.closed = r.closed ∧ r'.debounceMillis = r.debounceMillis

theorem sameSetup_debounceThen (r : Reactor) (pending : List Text) (effect : Effect) :
    SameSetup r (r.debounceThen pending effect).1 := by
  rcases debounceThen_cases r pending effect with ⟨delay, -, heq⟩ | ⟨fault, -, heq⟩ <;>
    rw [heq] <;> exact ⟨rfl, rfl⟩

theorem sameSetup_settle (r : Reactor) (ticket : Nat) (effect : Effect) :
    SameSetup r (r.settle ticket effect).1 := by
  rcases settle_cases r ticket effect with ⟨request, path, queued, -, -, heq⟩ | ⟨-, heq⟩
  · rw [heq]
    exact sameSetup_debounceThen (r.drop ticket) (path :: queued) effect
  · rw [heq]
    exact ⟨rfl, rfl⟩

theorem sameSetup_answer (r : Reactor) (c : Cycle) (a : Answer) :
    SameSetup r (r.answer c a).1 := by
  rw [answer_eq]
  cases turn r.closed c.ticket c.awaiting a with
  | continues awaiting effect => exact ⟨rfl, rfl⟩
  | settles effect => exact sameSetup_settle r c.ticket effect
  | abandons failure => exact ⟨rfl, rfl⟩

theorem sameSetup_step (r : Reactor) {i : Input} (hi : i ≠ .close) :
    SameSetup r (r.step i).1 := by
  cases i with
  | notify path =>
      simp only [step, notify]
      split
      · exact ⟨rfl, rfl⟩
      · split
        · exact sameSetup_debounceThen r [path] .done
        · exact sameSetup_debounceThen (r.cancel _) _ .done
        · exact ⟨rfl, rfl⟩
  | trigger request =>
      simp only [step, trigger]
      split
      · exact ⟨rfl, rfl⟩
      · split <;> exact ⟨rfl, rfl⟩
  | markFired timer => exact ⟨rfl, rfl⟩
  | expire timer isRoot =>
      simp only [step, expire]
      split
      · exact ⟨rfl, rfl⟩
      · split <;> exact ⟨rfl, rfl⟩
  | answered ticket a =>
      simp only [step]
      split
      · exact sameSetup_answer r _ a
      · exact ⟨rfl, rfl⟩
  | close => exact absurd rfl hi

theorem sameSetup_run (r : Reactor) {inputs : List Input} (hopen : Input.close ∉ inputs) :
    SameSetup r (run r inputs) := by
  induction inputs generalizing r with
  | nil => exact ⟨rfl, rfl⟩
  | cons i inputs ih =>
      simp only [List.mem_cons, not_or] at hopen
      obtain ⟨hclosed, hmillis⟩ := sameSetup_step r (Ne.symm hopen.1)
      obtain ⟨hclosed', hmillis'⟩ := ih (r.step i).1 hopen.2
      exact ⟨hclosed'.trans hclosed, hmillis'.trans hmillis⟩

theorem close_closed (r : Reactor) : r.close.closed = true := by
  unfold Reactor.close
  split <;> rfl

theorem closed_step {r : Reactor} (h : r.closed = true) (i : Input) :
    (r.step i).1.closed = true := by
  by_cases hi : i = .close
  · subst hi
    exact close_closed r
  · exact (sameSetup_step r hi).1.trans h

/-- The timers of an earlier state are still there, and what was cancelled or fired stays so. -/
def Ages (timers timers' : List Timer) : Prop :=
  ∀ (k : Nat) (t : Timer), timers[k]? = some t → ∃ t' : Timer, timers'[k]? = some t' ∧
    (t.cancelled = true → t'.cancelled = true) ∧ (t.fired = true → t'.fired = true)

theorem ages_refl (timers : List Timer) : Ages timers timers :=
  fun _ t ht => ⟨t, ht, id, id⟩

theorem Ages.trans {timers timers' timers'' : List Timer} (h : Ages timers timers')
    (h' : Ages timers' timers'') : Ages timers timers'' := by
  intro k t ht
  obtain ⟨t', ht', hcancelled, hfired⟩ := h k t ht
  obtain ⟨t'', ht'', hcancelled', hfired'⟩ := h' k t' ht'
  exact ⟨t'', ht'', hcancelled' ∘ hcancelled, hfired' ∘ hfired⟩

theorem ages_append (timers more : List Timer) : Ages timers (timers ++ more) := by
  intro k t ht
  obtain ⟨hlt, -⟩ := List.getElem?_eq_some_iff.mp ht
  exact ⟨t, by rw [List.getElem?_append_left hlt, ht], id, id⟩

theorem ages_modify (timers : List Timer) (timer : Nat) {f : Timer → Timer}
    (hcancelled : ∀ t, t.cancelled = true → (f t).cancelled = true)
    (hfired : ∀ t, t.fired = true → (f t).fired = true) :
    Ages timers (timers.modify timer f) := by
  intro k t ht
  simp only [List.getElem?_modify, ht]
  split
  · exact ⟨f t, rfl, hcancelled t, hfired t⟩
  · exact ⟨t, rfl, id, id⟩

theorem ages_cancel (r : Reactor) (timer : Nat) : Ages r.timers (r.cancel timer).timers :=
  ages_modify r.timers timer (fun _ _ => rfl) (fun _ h => h)

theorem ages_debounceThen (r : Reactor) (pending : List Text) (effect : Effect) :
    Ages r.timers (r.debounceThen pending effect).1.timers := by
  rcases debounceThen_cases r pending effect with ⟨delay, -, heq⟩ | ⟨fault, -, heq⟩
  · rw [heq]
    exact ages_append r.timers _
  · rw [heq]
    exact ages_refl r.timers

theorem ages_settle (r : Reactor) (ticket : Nat) (effect : Effect) :
    Ages r.timers (r.settle ticket effect).1.timers := by
  rcases settle_cases r ticket effect with ⟨request, path, queued, -, -, heq⟩ | ⟨-, heq⟩
  · rw [heq]
    exact ages_debounceThen (r.drop ticket) (path :: queued) effect
  · rw [heq]
    exact ages_refl r.timers

theorem ages_step (r : Reactor) (i : Input) : Ages r.timers (r.step i).1.timers := by
  have hrefl := ages_refl r.timers
  cases i with
  | notify path =>
      simp only [step, notify]
      split
      · exact hrefl
      · split
        · exact ages_debounceThen r [path] .done
        · exact (ages_cancel r _).trans (ages_debounceThen (r.cancel _) _ .done)
        · exact hrefl
  | trigger request =>
      simp only [step, trigger]
      split
      · exact hrefl
      · split <;> exact hrefl
  | markFired timer => exact ages_modify r.timers timer (fun _ h => h) (fun _ _ => rfl)
  | expire timer isRoot =>
      simp only [step, expire]
      split
      · exact hrefl
      · split <;> exact hrefl
  | answered ticket a =>
      simp only [step]
      split
      · next c hc =>
          rw [answer_eq]
          cases turn r.closed c.ticket c.awaiting a with
          | continues awaiting effect => exact hrefl
          | settles effect => exact ages_settle r c.ticket effect
          | abandons failure => exact hrefl
      · exact hrefl
  | close =>
      simp only [step, close]
      split
      · exact ages_cancel r _
      · exact hrefl

/-- The timers have ever larger generations, up to the latest one. -/
structure Stamped (timers : List Timer) (latest : Nat) : Prop where
  increasing : (timers.map Timer.generation).Pairwise (· < ·)
  bounded : ∀ generation ∈ timers.map Timer.generation, generation ≤ latest

theorem Stamped.modify {timers : List Timer} {latest : Nat} (h : Stamped timers latest)
    (timer : Nat) {f : Timer → Timer} (hf : ∀ t, (f t).generation = t.generation) :
    Stamped (timers.modify timer f) latest := by
  have hsame : (timers.modify timer f).map Timer.generation = timers.map Timer.generation := by
    refine List.ext_getElem? fun i => ?_
    simp only [List.getElem?_map, List.getElem?_modify]
    split <;> cases timers[i]? <;> simp [hf]
  exact ⟨hsame ▸ h.increasing, hsame ▸ h.bounded⟩

theorem Stamped.succ {timers : List Timer} {latest : Nat} (h : Stamped timers latest) :
    Stamped timers (latest + 1) :=
  ⟨h.increasing, fun generation hmem => Nat.le_succ_of_le (h.bounded generation hmem)⟩

theorem Stamped.append {timers : List Timer} {latest : Nat} (h : Stamped timers latest)
    (delay : Float) :
    Stamped (timers ++ [{ delay, generation := latest + 1 }]) (latest + 1) := by
  constructor
  · rw [List.map_append, List.pairwise_append]
    refine ⟨h.increasing, List.pairwise_singleton _ _, fun generation hmem last hlast => ?_⟩
    have hlatest := h.bounded generation hmem
    obtain rfl : last = latest + 1 := by simpa using hlast
    omega
  · intro generation hmem
    rw [List.map_append, List.mem_append] at hmem
    rcases hmem with hmem | hmem
    · exact h.succ.bounded generation hmem
    · obtain rfl : generation = latest + 1 := by simpa using hmem
      exact Nat.le_refl _

theorem Stamped.eq_of_generation {timers : List Timer} {latest i j : Nat}
    (h : Stamped timers latest) {t t' : Timer} (hi : timers[i]? = some t)
    (hj : timers[j]? = some t') (heq : t.generation = t'.generation) : i = j := by
  have hnodup : (timers.map Timer.generation).Nodup := h.increasing.imp Nat.ne_of_lt
  have hlt : i < (timers.map Timer.generation).length := by
    simpa using (List.getElem?_eq_some_iff.mp hi).1
  exact (List.getElem?_inj hlt hnodup).mp (by simp [hi, hj, heq])

/-- A reactor runs one cycle at a time, and that one's check is what it is doing. While it waits
for a burst to end it is open, the timer of the burst was not cancelled, and its generation is the
latest. -/
structure Sound (r : Reactor) : Prop where
  cycles : r.cycles = [] ∨
    ∃ c queued, r.cycles = [c] ∧ r.phase = .checking c.request queued
  burst : ∀ pending timer generation, r.phase = .debouncing pending timer generation →
    r.closed = false ∧ (∃ delay, r.debounceMillis.thousandth = .ok delay) ∧
      generation = r.generation ∧
      ∃ t, r.timers[timer]? = some t ∧ t.cancelled = false ∧ t.generation = generation
  stamped : Stamped r.timers r.generation

theorem sound_fresh (millis : Number) : Sound (fresh millis) :=
  ⟨.inl rfl, by simp [fresh], by simp [fresh], by simp [fresh]⟩

theorem Sound.due?_eq_some_iff {r : Reactor} (h : Sound r) (timer : Nat) (pending : List Text) :
    r.due? timer = some pending ↔
      r.closed = false ∧ ∃ generation, r.phase = .debouncing pending timer generation := by
  rw [ReactorRuns.due?_eq_some_iff]
  refine and_congr_right fun _ => ⟨?_, ?_⟩
  · rintro ⟨current, generation, t, hphase, ht, hgeneration⟩
    obtain ⟨-, -, -, t', ht', -, hgeneration'⟩ := h.burst pending current generation hphase
    obtain rfl := h.stamped.eq_of_generation ht' ht (hgeneration'.trans hgeneration.symm)
    exact ⟨generation, hphase⟩
  · rintro ⟨generation, hphase⟩
    obtain ⟨-, -, -, t, ht, -, hgeneration⟩ := h.burst pending timer generation hphase
    exact ⟨timer, generation, t, hphase, ht, hgeneration⟩

theorem Sound.due?_eq_none {r : Reactor} (h : Sound r) {timer : Nat}
    (hstale : ∀ pending generation, r.phase ≠ .debouncing pending timer generation) :
    r.due? timer = none := by
  cases hdue : r.due? timer with
  | none => rfl
  | some pending =>
      obtain ⟨-, generation, hphase⟩ := (h.due?_eq_some_iff timer pending).mp hdue
      exact absurd hphase (hstale pending generation)

theorem Sound.cycles_eq_nil {r : Reactor} (h : Sound r)
    (hphase : ∀ request queued, r.phase ≠ .checking request queued) : r.cycles = [] := by
  rcases h.cycles with hnil | ⟨c, queued, -, hchecking⟩
  · exact hnil
  · exact absurd hchecking (hphase c.request queued)

theorem Sound.of_cycle? {r : Reactor} (h : Sound r) {ticket : Nat} {c : Cycle}
    (hc : r.cycle? ticket = some c) :
    r.cycles = [c] ∧ c.ticket = ticket ∧ ∃ queued, r.phase = .checking c.request queued := by
  have hticket : c.ticket = ticket := by simpa using List.find?_some hc
  have hmem : c ∈ r.cycles := List.mem_of_find?_eq_some hc
  rcases h.cycles with hnil | ⟨c', queued, hcycles, hphase⟩
  · simp [hnil] at hmem
  · obtain rfl : c = c' := by simpa [hcycles] using hmem
    exact ⟨hcycles, hticket, queued, hphase⟩

theorem drop_cycles {r : Reactor} {c : Cycle} (h : r.cycles = [c]) :
    (r.drop c.ticket).cycles = [] := by
  simp [drop, h]

theorem sound_debounceThen {r : Reactor} (hcycles : r.cycles = []) (hclosed : r.closed = false)
    (hstamped : Stamped r.timers r.generation)
    (hburst : ∀ pending timer generation, r.phase = .debouncing pending timer generation →
      ∃ delay, r.debounceMillis.thousandth = .ok delay)
    (pending : List Text) (effect : Effect) : Sound (r.debounceThen pending effect).1 := by
  rcases debounceThen_cases r pending effect with ⟨delay, hdelay, heq⟩ | ⟨fault, hfault, heq⟩
  · rw [heq]
    refine ⟨.inl hcycles, ?_, hstamped.append delay⟩
    rintro pending' timer generation ⟨⟩
    exact ⟨hclosed, ⟨delay, hdelay⟩, rfl, _, List.getElem?_concat_length, rfl, rfl⟩
  · rw [heq]
    refine ⟨.inl hcycles, fun pending' timer generation hphase => ?_, hstamped.succ⟩
    obtain ⟨delay, hdelay⟩ := hburst pending' timer generation hphase
    simp [hfault] at hdelay

theorem Sound.start {r : Reactor} (h : Sound r) (hcycles : r.cycles = []) (request : Request) :
    Sound (r.start request).1 :=
  ⟨.inr ⟨⟨r.started, request, .running⟩, [], by simp [Reactor.start, hcycles], rfl⟩,
    by simp [Reactor.start], h.stamped⟩

theorem Sound.notify {r : Reactor} (h : Sound r) (path : Text) : Sound (r.notify path).1 := by
  have hburst : ∀ pending timer generation, r.phase = .debouncing pending timer generation →
      ∃ delay, r.debounceMillis.thousandth = .ok delay :=
    fun pending timer generation hphase => (h.burst pending timer generation hphase).2.1
  unfold Reactor.notify
  cases hclosed : r.closed with
  | true => simpa [hclosed] using h
  | false =>
      cases hphase : r.phase with
      | idle =>
          have hcycles := h.cycles_eq_nil (by simp [hphase])
          exact sound_debounceThen hcycles hclosed h.stamped hburst [path] .done
      | debouncing pending timer generation =>
          have hcycles := h.cycles_eq_nil (by simp [hphase])
          exact sound_debounceThen (r := r.cancel timer) hcycles hclosed
            (h.stamped.modify timer fun _ => rfl) hburst _ .done
      | checking request queued =>
          refine ⟨?_, by simp, h.stamped⟩
          rcases h.cycles with hnil | ⟨c, queued', hcycles, hchecking⟩
          · exact .inl hnil
          · rw [hphase] at hchecking
            cases hchecking
            exact .inr ⟨c, _, hcycles, rfl⟩

theorem Sound.trigger {r : Reactor} (h : Sound r) (request : Request) :
    Sound (r.trigger request).1 := by
  unfold Reactor.trigger
  cases hclosed : r.closed with
  | true => simpa [hclosed] using h
  | false =>
      cases hphase : r.phase with
      | idle => exact h.start (h.cycles_eq_nil (by simp [hphase])) request
      | debouncing pending timer generation => exact h
      | checking request' queued => exact h

theorem Sound.markFired {r : Reactor} (h : Sound r) (timer : Nat) : Sound (r.markFired timer) := by
  refine ⟨h.cycles, ?_, h.stamped.modify timer fun _ => rfl⟩
  intro pending current generation hphase
  obtain ⟨hclosed, hdelay, hlatest, t, htimer, hcancelled, hgeneration⟩ :=
    h.burst pending current generation hphase
  refine ⟨hclosed, hdelay, hlatest, ?_⟩
  simp only [Reactor.markFired, List.getElem?_modify, htimer]
  split
  · exact ⟨_, rfl, hcancelled, hgeneration⟩
  · exact ⟨_, rfl, hcancelled, hgeneration⟩

theorem Sound.expire {r : Reactor} (h : Sound r) (timer : Nat) (isRoot : Except Failure Bool) :
    Sound (r.expire timer isRoot).1 := by
  unfold Reactor.expire
  cases hdue : r.due? timer with
  | none => exact h
  | some pending =>
      obtain ⟨-, generation, hphase⟩ := (h.due?_eq_some_iff timer pending).mp hdue
      cases isRoot with
      | ok isRoot => exact h.start (h.cycles_eq_nil (by simp [hphase])) _
      | error failure => exact h

theorem Sound.close {r : Reactor} (h : Sound r) : Sound r.close := by
  unfold Reactor.close
  cases hphase : r.phase with
  | idle => exact ⟨.inl (h.cycles_eq_nil (by simp [hphase])), by simp, h.stamped⟩
  | debouncing pending timer generation =>
      exact ⟨.inl (h.cycles_eq_nil (by simp [hphase])), by simp,
        h.stamped.modify timer fun _ => rfl⟩
  | checking request queued =>
      exact ⟨by simpa [hphase] using h.cycles, by simp, h.stamped⟩

theorem Sound.settle {r : Reactor} (h : Sound r) {ticket : Nat} {c : Cycle}
    (hc : r.cycle? ticket = some c) (effect : Effect) : Sound (r.settle ticket effect).1 := by
  obtain ⟨hcycles, rfl, queued, hphase⟩ := h.of_cycle? hc
  have hdrop := drop_cycles hcycles
  rcases settle_cases r c.ticket effect with ⟨request, path, waiting, -, hclosed, heq⟩ | ⟨-, heq⟩
  · rw [heq]
    exact sound_debounceThen hdrop hclosed h.stamped (by simp [drop, hphase]) _ effect
  · rw [heq]
    exact ⟨.inl hdrop, by simp, h.stamped⟩

theorem Sound.answer {r : Reactor} (h : Sound r) {ticket : Nat} {c : Cycle}
    (hc : r.cycle? ticket = some c) (a : Answer) : Sound (r.answer c a).1 := by
  obtain ⟨hcycles, rfl, queued, hphase⟩ := h.of_cycle? hc
  rw [answer_eq]
  cases turn r.closed c.ticket c.awaiting a with
  | continues awaiting effect =>
      refine ⟨.inr ⟨{ c with awaiting }, queued, ?_, hphase⟩, by simp [advance, hphase], h.stamped⟩
      simp [advance, hcycles]
  | settles effect => exact h.settle hc effect
  | abandons failure => exact ⟨.inl (drop_cycles hcycles), by simp [drop, hphase], h.stamped⟩

theorem Sound.step {r : Reactor} (h : Sound r) (i : Input) : Sound (r.step i).1 := by
  cases i with
  | notify path => exact h.notify path
  | trigger request => exact h.trigger request
  | markFired timer => exact h.markFired timer
  | expire timer isRoot => exact h.expire timer isRoot
  | answered ticket a =>
      simp only [Reactor.step]
      cases hc : r.cycle? ticket with
      | none => exact h
      | some c => exact h.answer hc a
  | close => exact h.close

theorem Sound.run {r : Reactor} (h : Sound r) (inputs : List Input) : Sound (run r inputs) :=
  run_induction (fun _ i h => h.step i) h inputs

end Recheck.Proofs.ReactorRuns
