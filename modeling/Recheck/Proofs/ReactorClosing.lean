import Recheck.Proofs.ReactorRest

/-!
What is left to happen once the reactor was closed: nothing but the end of the check that was
under way. Timers may still run out and files may still change, to no effect.
-/

namespace Recheck.Proofs.ReactorClosing

open Recheck.Reactor
open Recheck.Proofs.ReactorRuns
open Recheck.Proofs.ReactorRest

/-- A later state has the timers of an earlier one, or one more, which ends a burst. -/
def Arms (r r' : Reactor) : Prop :=
  r'.timers.length = r.timers.length ∨
    r'.timers.length = r.timers.length + 1 ∧
      ∃ pending generation, r'.phase = .debouncing pending r.timers.length generation

theorem arms_of_eq {r r' : Reactor} (h : r'.timers = r.timers) : Arms r r' :=
  .inl (by rw [h])

theorem arms_debounceThen {r : Reactor} (r' : Reactor)
    (h : r'.timers.length = r.timers.length) (pending : List Text) (effect : Effect) :
    Arms r (r'.debounceThen pending effect).1 := by
  rcases debounceThen_cases r' pending effect with ⟨delay, -, heq⟩ | ⟨fault, -, heq⟩
  · rw [heq]
    exact .inr ⟨by simp [debounce, count, h], pending, r'.count.generation,
      by simp [debounce, count, h]⟩
  · rw [heq]
    exact .inl h

theorem arms_settle (r : Reactor) (ticket : Nat) (effect : Effect) :
    Arms r (r.settle ticket effect).1 := by
  rcases settle_cases r ticket effect with ⟨request, path, queued, -, -, heq⟩ | ⟨-, heq⟩
  · rw [heq]
    exact arms_debounceThen (r.drop ticket) rfl _ _
  · rw [heq]
    exact arms_of_eq rfl

theorem arms_step (r : Reactor) (i : Input) : Arms r (r.step i).1 := by
  cases i with
  | notify path =>
      simp only [step, notify]
      split
      · exact arms_of_eq rfl
      · split
        · exact arms_debounceThen r rfl _ _
        · exact arms_debounceThen (r.cancel _) (by simp [cancel]) _ _
        · exact arms_of_eq rfl
  | trigger request =>
      simp only [step, trigger]
      split
      · exact arms_of_eq rfl
      · split <;> exact arms_of_eq rfl
  | markFired timer => exact .inl (by simp [step, markFired])
  | expire timer isRoot =>
      simp only [step, expire]
      split
      · exact arms_of_eq rfl
      · split <;> exact arms_of_eq rfl
  | answered ticket a =>
      simp only [step]
      split
      · next c hc =>
          rw [answer_eq]
          cases turn r.closed c.ticket c.awaiting a with
          | continues awaiting effect => exact arms_of_eq rfl
          | settles effect => exact arms_settle r c.ticket effect
          | abandons failure => exact arms_of_eq rfl
      · exact arms_of_eq rfl
  | close =>
      simp only [step, close]
      split
      · exact .inl (by simp [cancel])
      · exact arms_of_eq rfl

theorem timers_length_step {r : Reactor} (hsound : Sound r) (hclosed : r.closed = true)
    (i : Input) : (r.step i).1.timers.length = r.timers.length := by
  rcases arms_step r i with hsame | ⟨-, pending, generation, hphase⟩
  · exact hsame
  · have hopen := ((hsound.step i).burst pending _ generation hphase).1
    simp [closed_step hclosed i] at hopen

/-- A timer that may still run out by itself and whose callback was not called. -/
def Outstanding (r : Reactor) (inputs : List Input) (timer : Nat) : Prop :=
  timer ∈ (run r inputs).liveTimers ∧ ∀ isRoot, Input.expire timer isRoot ∉ inputs

theorem not_mem_liveTimers_cancel (r : Reactor) (timer : Nat) :
    timer ∉ (r.cancel timer).liveTimers := by
  rw [mem_liveTimers_iff]
  rintro ⟨t, ht, hcancelled, -⟩
  obtain ⟨t', -, rfl⟩ : ∃ t', r.timers[timer]? = some t' ∧ { t' with cancelled := true } = t := by
    simpa [cancel, List.getElem?_modify] using ht
  simp at hcancelled

theorem mem_liveTimers_of_ages {r r' : Reactor} (hages : Ages r.timers r'.timers) {timer : Nat}
    (hlt : timer < r.timers.length) (h : timer ∈ r'.liveTimers) : timer ∈ r.liveTimers := by
  rw [mem_liveTimers_iff] at h ⊢
  obtain ⟨t', ht', hcancelled, hfired⟩ := h
  obtain ⟨t, ht⟩ : ∃ t, r.timers[timer]? = some t := ⟨_, List.getElem?_eq_getElem hlt⟩
  obtain ⟨t'', ht'', hcancelled', hfired'⟩ := hages timer t ht
  obtain rfl := Option.some.inj (ht'.symm.trans ht'')
  refine ⟨t, ht, ?_, ?_⟩
  · by_contra hne
    simp [hcancelled' (by simpa using hne)] at hcancelled
  · by_contra hne
    simp [hfired' (by simpa using hne)] at hfired

theorem debouncing_step_of_live {r : Reactor} (hsound : Sound r) {pending : List Text}
    {timer generation : Nat} (hphase : r.phase = .debouncing pending timer generation) {i : Input}
    (hlive : timer ∈ (r.step i).1.liveTimers) (hi : ∀ isRoot, i ≠ .expire timer isRoot) :
    (r.step i).1.phase = .debouncing pending timer generation := by
  obtain ⟨hopen, -, -, t, ht, -⟩ := hsound.burst pending timer generation hphase
  have hcycles := hsound.cycles_eq_nil (by simp [hphase])
  have hcancel := not_mem_liveTimers_cancel r timer
  cases i with
  | notify path =>
      have hlt : timer < r.timers.length := (List.getElem?_eq_some_iff.mp ht).1
      have hages := ages_debounceThen (r.cancel timer) (appendUnique pending path) .done
      simp only [step, notify, hopen, hphase, Bool.false_eq_true, if_false] at hlive
      exact absurd (mem_liveTimers_of_ages hages (by simpa [cancel] using hlt) hlive) hcancel
  | trigger request => simp [step, trigger, hopen, hphase]
  | markFired k => exact hphase
  | expire k isRoot =>
      have hstale : r.due? k = none := by
        refine hsound.due?_eq_none fun waiting generation' hphase' => ?_
        obtain ⟨-, rfl, -⟩ := Phase.debouncing.inj (hphase.symm.trans hphase')
        exact hi isRoot rfl
      simp [step, expire, hstale, hphase]
  | answered ticket a => simp [step, cycle?, hcycles, hphase]
  | close =>
      simp only [step, close, hphase] at hlive
      exact absurd hlive hcancel

theorem debouncing_of_outstanding (millis : Number) (inputs : List Input) {timer : Nat}
    (h : Outstanding (fresh millis) inputs timer) :
    ∃ pending generation,
      (run (fresh millis) inputs).phase = .debouncing pending timer generation := by
  induction inputs using List.reverseRecOn with
  | nil => simp [Outstanding, fresh, liveTimers] at h
  | append_singleton inputs i ih =>
      obtain ⟨hlive, hcalled⟩ := h
      rw [run_concat] at hlive ⊢
      simp only [List.mem_append, List.mem_singleton, not_or] at hcalled
      by_cases hlt : timer < (run (fresh millis) inputs).timers.length
      · have hbefore := mem_liveTimers_of_ages (ages_step _ i) hlt hlive
        obtain ⟨pending, generation, hphase⟩ := ih ⟨hbefore, fun isRoot => (hcalled isRoot).1⟩
        have hsound := (sound_fresh millis).run inputs
        exact ⟨pending, generation, debouncing_step_of_live hsound hphase hlive
          fun isRoot => Ne.symm (hcalled isRoot).2⟩
      · obtain ⟨t, ht, -⟩ := (mem_liveTimers_iff _ timer).mp hlive
        have hlt' := (List.getElem?_eq_some_iff.mp ht).1
        rcases arms_step (run (fresh millis) inputs) i with hsame |
          ⟨hmore, pending, generation, hphase⟩
        · omega
        · obtain rfl : timer = (run (fresh millis) inputs).timers.length := by omega
          exact ⟨pending, generation, hphase⟩

theorem settle_of_closed {r : Reactor} (hclosed : r.closed = true) (ticket : Nat)
    (effect : Effect) :
    r.settle ticket effect = ({ r.drop ticket with phase := .idle }, effect) := by
  rcases settle_cases r ticket effect with ⟨request, path, queued, -, hopen, -⟩ | ⟨-, heq⟩
  · simp [hclosed] at hopen
  · exact heq

theorem turn_effect_ne_deliver (ticket : Nat) (w : Awaiting) (a : Answer) (ticket' : Nat)
    (report : Report) : (turn true ticket w a).effect ≠ .deliver ticket' report := by
  fun_cases turn true ticket w a <;> simp_all [Turn.effect]

theorem answer_effect_of_closed {r : Reactor} (hclosed : r.closed = true) (c : Cycle)
    (a : Answer) : (r.answer c a).2 = (turn true c.ticket c.awaiting a).effect := by
  rw [answer_eq, hclosed]
  cases turn true c.ticket c.awaiting a with
  | continues awaiting effect => rfl
  | settles effect => simp [settle_of_closed hclosed, Turn.effect]
  | abandons failure => rfl

theorem open_of_deliver {r : Reactor} {i : Input} {ticket : Nat} {report : Report}
    (h : (r.step i).2 = .deliver ticket report) : r.closed = false := by
  by_contra hclosed
  rw [Bool.not_eq_false] at hclosed
  cases i with
  | notify path => simp [step, notify, hclosed] at h
  | trigger request => simp [step, trigger, hclosed] at h
  | markFired timer => simp [step] at h
  | expire timer isRoot => simp [step, expire, due?, hclosed] at h
  | answered ticket' a =>
      simp only [step] at h
      cases hc : r.cycle? ticket' with
      | none => simp [hc] at h
      | some c =>
          rw [hc, answer_effect_of_closed hclosed] at h
          exact turn_effect_ne_deliver c.ticket c.awaiting a ticket report h
  | close => simp [step] at h

/-- How often a cycle is answered. -/
def answersTo (ticket : Nat) (inputs : List Input) : Nat :=
  inputs.countP fun
    | .answered ticket' _ => ticket' = ticket
    | _ => false

/-- The answers that a cycle of a closed reactor can wait for. -/
def answersLeft : Awaiting → Nat
  | .running | .delivering => 2
  | .reportingRun | .reportingDelivery => 1

theorem answersLeft_pos (w : Awaiting) : 0 < answersLeft w := by
  cases w <;> simp [answersLeft]

theorem answersLeft_le (w : Awaiting) : answersLeft w ≤ 2 := by
  cases w <;> simp [answersLeft]

/-- The run of a check is interrupted, or the report of its failure fails itself. -/
inductive BreaksOff (r : Reactor) : Input → Prop
  | mk {ticket : Nat} {c : Cycle} {failure : Failure} (hc : r.cycle? ticket = some c)
      (hawaiting : c.awaiting = .reportingRun ∨
        c.awaiting = .running ∧ failure.isHandled = false) :
      BreaksOff r (.answered ticket (.raised failure))

/-- A closed reactor needs no timer to go on. -/
theorem givesUp_iff_breaksOff {r : Reactor} (hclosed : r.closed = true) (i : Input) :
    GivesUp r i ↔ BreaksOff r i := by
  constructor
  · rintro (⟨hc, hawaiting⟩ | ⟨hc, hawaiting, hfailure⟩ | ⟨-, -, -, hopen, -⟩)
    · exact .mk hc (.inl hawaiting)
    · exact .mk hc (.inr ⟨hawaiting, hfailure⟩)
    · simp [hclosed] at hopen
  · rintro ⟨hc, hawaiting | ⟨hawaiting, hfailure⟩⟩
    · exact .report hc hawaiting
    · exact .interruption hc hawaiting hfailure

theorem closed_run {r : Reactor} (hclosed : r.closed = true) (inputs : List Input) :
    (run r inputs).closed = true :=
  run_induction (P := fun r => r.closed = true) (fun _ i h => closed_step h i) hclosed inputs

theorem happens_breaksOff_iff {r : Reactor} (hclosed : r.closed = true) (inputs : List Input) :
    Happens r inputs BreaksOff ↔ Happens r inputs GivesUp := by
  constructor
  · rintro ⟨before, i, after, rfl, h⟩
    exact ⟨before, i, after, rfl, (givesUp_iff_breaksOff (closed_run hclosed before) i).mpr h⟩
  · rintro ⟨before, i, after, rfl, h⟩
    exact ⟨before, i, after, rfl, (givesUp_iff_breaksOff (closed_run hclosed before) i).mp h⟩

/-- While a cycle of a closed reactor goes on, its check is under way, and every answer brings the
cycle nearer to its end. -/
structure Winds (c : Cycle) (inputs : List Input) (c' : Cycle) : Prop where
  ticket : c'.ticket = c.ticket
  request : c'.request = c.request
  left : answersTo c.ticket inputs + answersLeft c'.awaiting ≤ answersLeft c.awaiting

theorem answersLeft_of_continues {ticket : Nat} {w awaiting : Awaiting} {a : Answer}
    {effect : Effect} (h : turn true ticket w a = .continues awaiting effect) :
    answersLeft awaiting + 1 = answersLeft w := by
  revert h
  fun_cases turn true ticket w a <;> grind [answersLeft]

theorem cycles_step_of_closed {r : Reactor} (hclosed : r.closed = true) {i : Input}
    (hi : ∀ ticket a, i = .answered ticket a → r.cycle? ticket = none) :
    (r.step i).1.cycles = r.cycles := by
  cases i with
  | notify path => simp [step, notify, hclosed]
  | trigger request => simp [step, trigger, hclosed]
  | markFired timer => rfl
  | expire timer isRoot => simp [step, expire, due?, hclosed]
  | answered ticket a => simp [step, hi ticket a rfl]
  | close =>
      simp only [step, close]
      split <;> rfl

theorem winds_step {r : Reactor} (hclosed : r.closed = true) {c c' : Cycle}
    {inputs : List Input} (h : Winds c inputs c') (hcycles : r.cycles = [c']) (i : Input) :
    (r.step i).1.cycles = [] ∨
      ∃ c'', (r.step i).1.cycles = [c''] ∧ Winds c (inputs ++ [i]) c'' := by
  by_cases hi : ∃ a, i = .answered c'.ticket a
  · obtain ⟨a, rfl⟩ := hi
    have hc : r.cycle? c'.ticket = some c' := by simp [cycle?, hcycles]
    simp only [step, hc, answer_eq, hclosed]
    cases hturn : turn true c'.ticket c'.awaiting a with
    | continues awaiting effect =>
        have hleft := answersLeft_of_continues hturn
        refine .inr ⟨{ c' with awaiting }, by simp [advance, hcycles], h.ticket, h.request, ?_⟩
        have hbefore := h.left
        simp only [answersTo, List.countP_append, List.countP_singleton, h.ticket,
          decide_true, if_true] at hbefore ⊢
        omega
    | settles effect => exact .inl (by simp [settle_of_closed hclosed, drop_cycles hcycles])
    | abandons failure => exact .inl (drop_cycles hcycles)
  · have hother : ∀ a, i ≠ .answered c'.ticket a := fun a heq => hi ⟨a, heq⟩
    have hsame : (r.step i).1.cycles = [c'] := by
      rw [cycles_step_of_closed hclosed ?_, hcycles]
      rintro ticket a rfl
      have hne : c'.ticket ≠ ticket := by
        rintro rfl
        exact hother a rfl
      simp [cycle?, hcycles, hne]
    refine .inr ⟨c', hsame, h.ticket, h.request, ?_⟩
    have hnone : answersTo c.ticket [i] = 0 := by
      rw [← h.ticket]
      cases i with
      | answered ticket a =>
          have hne : ticket ≠ c'.ticket := by
            rintro rfl
            exact hother a rfl
          simp [answersTo, hne]
      | notify | trigger | markFired | expire | close => rfl
    have hleft := h.left
    simp only [answersTo, List.countP_append] at hleft hnone ⊢
    omega

theorem winds_run {r : Reactor} (hclosed : r.closed = true) {c : Cycle} (hcycles : r.cycles = [c])
    (inputs : List Input) :
    (run r inputs).cycles = [] ∨ ∃ c', (run r inputs).cycles = [c'] ∧ Winds c inputs c' := by
  induction inputs using List.reverseRecOn with
  | nil => exact .inr ⟨c, hcycles, rfl, rfl, by simp [answersTo]⟩
  | append_singleton inputs i ih =>
      rw [run_concat]
      have hclosed' := closed_run hclosed inputs
      rcases ih with hnil | ⟨c', hcycles', hwinds⟩
      · left
        rw [cycles_step_of_closed hclosed' (by simp [cycle?, hnil]), hnil]
      · exact winds_step hclosed' hwinds hcycles' i

theorem idle_iff_not_breaksOff {r : Reactor} (hsound : Sound r) (hclosed : r.closed = true)
    {c : Cycle} (hcycles : r.cycles = [c]) {inputs : List Input}
    (hdone : (run r inputs).cycles = []) :
    (run r inputs).phase = .idle ↔ ¬ Happens r inputs BreaksOff := by
  have hbusy : ¬ Abandoned r := by simp [Abandoned, hcycles]
  rw [happens_breaksOff_iff hclosed, ← abandoned_run_iff hsound hbusy]
  cases hphase : (run r inputs).phase with
  | idle => simp [Abandoned, hphase]
  | debouncing pending timer generation =>
      have hopen := ((hsound.run inputs).burst pending timer generation hphase).1
      simp [closed_run hclosed inputs] at hopen
  | checking request queued => simp [Abandoned, hphase, hdone]

/-- A reactor that was closed after some inputs. -/
def closedAfter (millis : Number) (inputs : List Input) : Reactor :=
  (run (fresh millis) inputs).close

/-- Once a reactor was closed, no check starts, no result is delivered and no timer is started,
whatever happens. The closing leaves no timer that may still run out, unless its callback was
called before. The check that was under way goes on until its collaborators answered at most
twice; then the reactor is idle, unless the run was interrupted or the report of its failure
failed. -/
theorem inert_after_close (millis : Number) (before after : List Input) :
    (∀ i,
      (∀ ticket request,
        ((run (closedAfter millis before) after).step i).2 ≠ .run ticket request) ∧
      (∀ ticket report,
        ((run (closedAfter millis before) after).step i).2 ≠ .deliver ticket report) ∧
      ((run (closedAfter millis before) after).step i).1.timers.length =
        (run (closedAfter millis before) after).timers.length) ∧
    (∀ timer ∈ (closedAfter millis before).liveTimers,
      ∃ isRoot, Input.expire timer isRoot ∈ before) ∧
    ∀ c ∈ (closedAfter millis before).cycles,
      (∃ c' queued, (run (closedAfter millis before) after).cycles = [c'] ∧
        c'.ticket = c.ticket ∧ c'.request = c.request ∧
        (run (closedAfter millis before) after).phase = .checking c.request queued ∧
        answersTo c.ticket after < 2) ∨
      ((run (closedAfter millis before) after).cycles = [] ∧
        ((run (closedAfter millis before) after).phase = .idle ↔
          ¬ Happens (closedAfter millis before) after BreaksOff)) := by
  have hsound : Sound (closedAfter millis before) := ((sound_fresh millis).run before).close
  have hclosed : (closedAfter millis before).closed = true := close_closed _
  have hsound' := hsound.run after
  have hclosed' := closed_run hclosed after
  refine ⟨fun i => ⟨?_, ?_, timers_length_step hsound' hclosed' i⟩, ?_, ?_⟩
  · intro ticket request hstart
    simpa [hclosed'] using (starts_cases hstart).1
  · intro ticket report hdeliver
    simpa [hclosed'] using open_of_deliver hdeliver
  · intro timer hlive
    by_contra hcalled
    rw [not_exists] at hcalled
    have houtstanding : Outstanding (fresh millis) (before ++ [.close]) timer := by
      refine ⟨by rwa [run_concat], ?_⟩
      simpa using hcalled
    obtain ⟨pending, generation, hphase⟩ := debouncing_of_outstanding millis _ houtstanding
    rw [run_concat] at hphase
    have hopen := (hsound.burst pending timer generation hphase).1
    simp [hclosed] at hopen
  · intro c hc
    rcases hsound.cycles with hnil | ⟨c', queued, hcycles, -⟩
    · simp [hnil] at hc
    · obtain rfl : c = c' := by simpa [hcycles] using hc
      rcases winds_run hclosed hcycles after with hdone | ⟨c', hcycles', hwinds⟩
      · exact .inr ⟨hdone, idle_iff_not_breaksOff hsound hclosed hcycles hdone⟩
      · left
        rcases hsound'.cycles with hnil' | ⟨c'', queued', hcycles'', hphase⟩
        · simp [hnil'] at hcycles'
        · obtain rfl : c' = c'' := by simpa [hcycles'] using hcycles''
          refine ⟨c', queued', hcycles', hwinds.ticket, hwinds.request, ?_, ?_⟩
          · rw [hphase, hwinds.request]
          · have hleft := hwinds.left
            have hsome := answersLeft_pos c'.awaiting
            have hmost := answersLeft_le c.awaiting
            omega

/-- A burst starts a check, and a file changes meanwhile. -/
def underWay : List Input :=
  [.notify ['a'], .notify ['b'], .markFired 1, .expire 1 (.ok false), .notify ['a']]

theorem inert_after_close_underWay :
    (closedAfter (.whole 50) underWay).cycles = [⟨0, .changed [['a'], ['b']], .running⟩] ∧
      (closedAfter (.whole 50) underWay).liveTimers = [] ∧
      (run (closedAfter (.whole 50) underWay) [.expire 0 (.ok true), .notify ['c']]).phase =
        .checking (.changed [['a'], ['b']]) [['a']] ∧
      ∀ report,
        (run (closedAfter (.whole 50) underWay) [.answered 0 (.result report)]).phase = .idle := by
  have hcycles : (closedAfter (.whole 50) underWay).cycles =
      [⟨0, .changed [['a'], ['b']], .running⟩] := rfl
  refine ⟨hcycles, rfl, rfl, fun report => ?_⟩
  obtain ⟨-, -, hcheck⟩ :=
    inert_after_close (.whole 50) underWay [.answered 0 (.result report)]
  rcases hcheck _ (List.mem_singleton.mpr rfl) with ⟨c', queued, hopen, -⟩ | ⟨-, hidle⟩
  · cases hopen
  · rw [hidle]
    rintro ⟨before, i, after, heq, hbreaks⟩
    have hmem : i ∈ [Input.answered 0 (.result report)] := by simp [heq]
    cases hbreaks
    simp at hmem

/-- A reactor that was closed during a check is not idle after the check where the run is
interrupted, though nothing was to be reported. -/
theorem not_idle_interrupted :
    (closedAfter (.whole 50) [.trigger .whole]).cycles = [⟨0, .whole, .running⟩] ∧
      ((closedAfter (.whole 50) [.trigger .whole]).step (.answered 0 (.raised .interrupted))).2 =
        .escaped .interrupted ∧
      (run (closedAfter (.whole 50) [.trigger .whole])
        [.answered 0 (.raised .interrupted)]).cycles = [] ∧
      (run (closedAfter (.whole 50) [.trigger .whole])
        [.answered 0 (.raised .interrupted)]).phase = .checking .whole [] :=
  ⟨rfl, rfl, rfl, rfl⟩

end Recheck.Proofs.ReactorClosing
