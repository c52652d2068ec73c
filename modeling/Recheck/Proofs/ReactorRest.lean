import Mathlib.Data.List.Induction
import Recheck.Proofs.ReactorRuns

/-!
When the reactor comes to rest. While none of its methods is at work it should be idle, or have
a timer that will wake it up. It is so exactly if no check was given up and the choice of the
next check did not fail.
-/

namespace Recheck.Proofs.ReactorRest

open Recheck.Reactor
open Recheck.Proofs.ReactorRuns

/-- The timers whose callbacks wait for their turn, after one more input. -/
def awaitTurns (waiting : List Nat) : Input → List Nat
  | .markFired timer => timer :: waiting
  | .expire timer _ => waiting.erase timer
  | _ => waiting

/-- The timers that fired and whose callbacks have not had their turn. -/
def callbacks (inputs : List Input) : List Nat := inputs.foldl awaitTurns []

/-- No method of the reactor is at work: no cycle is open and no callback waits. -/
def Quiet (r : Reactor) (inputs : List Input) : Prop :=
  (run r inputs).cycles = [] ∧ callbacks inputs = []

/-- The reactor is idle, or a timer that can still run out will end its burst. -/
def AtRest (r : Reactor) : Prop :=
  r.phase = .idle ∨
    ∃ pending timer generation,
      r.phase = .debouncing pending timer generation ∧ timer ∈ r.liveTimers

/-- The ways in which a check is given up. -/
inductive GivesUp (r : Reactor) : Input → Prop
  /-- The report about a failed run fails itself. -/
  | report {ticket : Nat} {c : Cycle} {failure : Failure} (hc : r.cycle? ticket = some c)
      (hawaiting : c.awaiting = .reportingRun) :
      GivesUp r (.answered ticket (.raised failure))
  /-- A run is interrupted. -/
  | interruption {ticket : Nat} {c : Cycle} {failure : Failure} (hc : r.cycle? ticket = some c)
      (hawaiting : c.awaiting = .running) (hfailure : failure.isHandled = false) :
      GivesUp r (.answered ticket (.raised failure))
  /-- Files wait at the end of the check, and no timer can run for the debounce time. -/
  | noTimer {ticket : Nat} {c : Cycle} {a : Answer} {effect : Effect} {request : Request}
      {path : Text} {queued : List Text} {fault : Number.Fault} (hc : r.cycle? ticket = some c)
      (hturn : turn r.closed ticket c.awaiting a = .settles effect)
      (hphase : r.phase = .checking request (path :: queued)) (hopen : r.closed = false)
      (hfault : r.debounceMillis.thousandth = .error fault) :
      GivesUp r (.answered ticket a)

/-- The choice of a check fails once the timer of the burst has fired. -/
inductive ChoiceFails (timer : Nat) (r : Reactor) : Input → Prop
  | mk {pending : List Text} {failure : Failure} {t : Timer}
      (hdue : r.due? timer = some pending) (ht : r.timers[timer]? = some t)
      (hfired : t.fired = true) : ChoiceFails timer r (.expire timer (.error failure))

/-- The failures of collaborators while a cycle is chosen or run, interruptions apart. -/
inductive Raises (r : Reactor) : Input → Failure → Prop
  | choosing {timer : Nat} {pending : List Text} {failure : Failure}
      (hdue : r.due? timer = some pending) :
      Raises r (.expire timer (.error failure)) failure
  | running {ticket : Nat} {c : Cycle} {failure : Failure} (hc : r.cycle? ticket = some c)
      (hawaiting : c.awaiting = .running ∨ c.awaiting = .delivering)
      (hfailure : failure.isHandled = true) :
      Raises r (.answered ticket (.raised failure)) failure

/-- Something happens at one of the inputs of a run. -/
def Happens (r : Reactor) (inputs : List Input) (P : Reactor → Input → Prop) : Prop :=
  ∃ before i after, inputs = before ++ i :: after ∧ P (run r before) i

theorem not_happens_nil (r : Reactor) (P : Reactor → Input → Prop) : ¬ Happens r [] P := by
  rintro ⟨before, i, after, h, -⟩
  simp at h

theorem happens_cons_iff (r : Reactor) (i : Input) (inputs : List Input)
    (P : Reactor → Input → Prop) :
    Happens r (i :: inputs) P ↔ P r i ∨ Happens (r.step i).1 inputs P := by
  constructor
  · rintro ⟨before, j, after, heq, hP⟩
    cases before with
    | nil =>
        obtain ⟨rfl, -⟩ := List.cons.inj heq
        exact .inl hP
    | cons k before =>
        obtain ⟨rfl, rfl⟩ := List.cons.inj heq
        exact .inr ⟨before, j, after, rfl, hP⟩
  · rintro (hP | ⟨before, j, after, rfl, hP⟩)
    · exact ⟨[], i, inputs, rfl, hP⟩
    · exact ⟨i :: before, j, after, rfl, hP⟩

theorem happens_concat_iff (r : Reactor) (inputs : List Input) (i : Input)
    (P : Reactor → Input → Prop) :
    Happens r (inputs ++ [i]) P ↔ Happens r inputs P ∨ P (run r inputs) i := by
  constructor
  · rintro ⟨before, j, after, heq, hP⟩
    rcases List.eq_nil_or_concat after with rfl | ⟨after', k, rfl⟩
    · obtain ⟨rfl, hlast⟩ := List.append_inj' heq rfl
      obtain rfl : i = j := by simpa using hlast
      exact .inr hP
    · left
      refine ⟨before, j, after', ?_, hP⟩
      have hconcat : inputs ++ [i] = (before ++ j :: after') ++ [k] := by simp [heq]
      exact (List.append_inj' hconcat rfl).1
  · rintro (⟨before, j, after, rfl, hP⟩ | hP)
    · exact ⟨before, j, after ++ [i], by simp, hP⟩
    · exact ⟨inputs, i, [], rfl, hP⟩

theorem callbacks_concat (inputs : List Input) (i : Input) :
    callbacks (inputs ++ [i]) = awaitTurns (callbacks inputs) i := by
  simp [callbacks]

theorem run_concat (r : Reactor) (inputs : List Input) (i : Input) :
    run r (inputs ++ [i]) = ((run r inputs).step i).1 := by
  simp [run_append]

theorem mem_liveTimers_iff (r : Reactor) (timer : Nat) :
    timer ∈ r.liveTimers ↔
      ∃ t, r.timers[timer]? = some t ∧ t.cancelled = false ∧ t.fired = false := by
  rw [liveTimers, List.mem_filter, List.mem_range]
  cases h : r.timers[timer]? with
  | none => simp
  | some t =>
      have hlt : timer < r.timers.length := (List.getElem?_eq_some_iff.mp h).1
      simp [hlt, Timer.isLive]

/-- Nobody ends the check that the reactor takes for being under way. -/
def Abandoned (r : Reactor) : Prop :=
  r.cycles = [] ∧ ∃ request queued, r.phase = .checking request queued

theorem turn_eq_abandons_iff (closed : Bool) (ticket : Nat) (w : Awaiting) (a : Answer)
    (failure : Failure) :
    turn closed ticket w a = .abandons failure ↔
      a = .raised failure ∧
        (w = .reportingRun ∨ w = .running ∧ failure.isHandled = false) := by
  fun_cases turn closed ticket w a <;> grind

theorem abandoned_settle_iff {r : Reactor} (hsound : Sound r) {ticket : Nat} {c : Cycle}
    (hc : r.cycle? ticket = some c) (effect : Effect) :
    Abandoned (r.settle ticket effect).1 ↔
      ∃ request path queued fault, r.phase = .checking request (path :: queued) ∧
        r.closed = false ∧ r.debounceMillis.thousandth = .error fault := by
  obtain ⟨hcycles, rfl, waiting, hphase⟩ := hsound.of_cycle? hc
  have hdrop := drop_cycles hcycles
  rcases settle_cases r c.ticket effect with ⟨request, path, queued, hchecking, hopen, heq⟩ |
    ⟨hnone, heq⟩
  · rw [heq]
    rcases debounceThen_cases (r.drop c.ticket) (path :: queued) effect with
      ⟨delay, hdelay, hmoved⟩ | ⟨fault, hfault, hmoved⟩
    · change r.debounceMillis.thousandth = .ok delay at hdelay
      simp [hmoved, Abandoned, debounce, hdelay]
    · rw [hmoved]
      refine ⟨fun _ => ⟨request, path, queued, fault, hchecking, hopen, hfault⟩, fun _ => ?_⟩
      exact ⟨hdrop, request, path :: queued, hchecking⟩
  · rw [heq]
    constructor
    · rintro ⟨-, request, queued, hidle⟩
      cases hidle
    · rintro ⟨request, path, queued, fault, hchecking, hopen, -⟩
      simpa [hopen] using hnone request (path :: queued) hchecking

theorem abandoned_answer_iff {r : Reactor} (hsound : Sound r) {ticket : Nat} {c : Cycle}
    (hc : r.cycle? ticket = some c) (a : Answer) :
    Abandoned (r.answer c a).1 ↔ GivesUp r (.answered ticket a) := by
  obtain ⟨hcycles, rfl, waiting, hphase⟩ := hsound.of_cycle? hc
  have hturned : ∀ {failure : Failure} {c' : Cycle}, r.cycle? c.ticket = some c' →
      a = .raised failure →
      (c'.awaiting = .reportingRun ∨ c'.awaiting = .running ∧ failure.isHandled = false) →
      turn r.closed c.ticket c.awaiting a = .abandons failure := by
    intro failure c' hc' ha hawaiting
    obtain rfl : c = c' := Option.some.inj (hc.symm.trans hc')
    exact (turn_eq_abandons_iff r.closed c.ticket c.awaiting a failure).mpr ⟨ha, hawaiting⟩
  rw [answer_eq]
  cases hturn : turn r.closed c.ticket c.awaiting a with
  | continues awaiting effect =>
      have hopen : ¬ Abandoned (r.advance c.ticket awaiting) := by
        simp [Abandoned, advance, hcycles]
      refine iff_of_false hopen ?_
      rintro (⟨hc', hawaiting⟩ | ⟨hc', hawaiting, hfailure⟩ | ⟨hc', hsettles, -, -, -⟩)
      · simpa [hturn] using hturned hc' rfl (.inl hawaiting)
      · simpa [hturn] using hturned hc' rfl (.inr ⟨hawaiting, hfailure⟩)
      · obtain rfl := Option.some.inj (hc.symm.trans hc')
        simp [hturn] at hsettles
  | settles effect =>
      rw [abandoned_settle_iff hsound hc]
      constructor
      · rintro ⟨request, path, queued, fault, hchecking, hopen, hfault⟩
        exact .noTimer hc hturn hchecking hopen hfault
      · rintro (⟨hc', hawaiting⟩ | ⟨hc', hawaiting, hfailure⟩ | ⟨hc', -, hchecking, hopen, hfault⟩)
        · simpa [hturn] using hturned hc' rfl (.inl hawaiting)
        · simpa [hturn] using hturned hc' rfl (.inr ⟨hawaiting, hfailure⟩)
        · exact ⟨_, _, _, _, hchecking, hopen, hfault⟩
  | abandons failure =>
      refine iff_of_true ⟨drop_cycles hcycles, c.request, waiting, hphase⟩ ?_
      obtain ⟨rfl, hawaiting | ⟨hawaiting, hfailure⟩⟩ :=
        (turn_eq_abandons_iff r.closed c.ticket c.awaiting a failure).mp hturn
      · exact .report hc hawaiting
      · exact .interruption hc hawaiting hfailure

theorem not_abandoned_start (r : Reactor) (request : Request) :
    ¬ Abandoned (r.start request).1 := by
  simp [Abandoned, start]

theorem not_abandoned_debounceThen {r : Reactor} (h : ¬ Abandoned r) (pending : List Text)
    (effect : Effect) : ¬ Abandoned (r.debounceThen pending effect).1 := by
  rcases debounceThen_cases r pending effect with ⟨delay, -, heq⟩ | ⟨fault, -, heq⟩
  · simp [heq, Abandoned, debounce]
  · rwa [heq]

theorem abandoned_notify_iff (r : Reactor) (path : Text) :
    Abandoned (r.notify path).1 ↔ Abandoned r := by
  unfold Reactor.notify
  split
  · rfl
  · cases hphase : r.phase with
    | idle =>
        have hnot : ¬ Abandoned r := by simp [Abandoned, hphase]
        exact iff_of_false (not_abandoned_debounceThen hnot _ _) hnot
    | debouncing pending timer generation =>
        have hnot : ¬ Abandoned r := by simp [Abandoned, hphase]
        exact iff_of_false
          (not_abandoned_debounceThen (r := r.cancel timer)
            (by simp [Abandoned, cancel, hphase]) _ _)
          hnot
    | checking request queued => simp [Abandoned, hphase]

theorem abandoned_trigger_iff (r : Reactor) (request : Request) :
    Abandoned (r.trigger request).1 ↔ Abandoned r := by
  unfold Reactor.trigger
  split
  · rfl
  · cases hphase : r.phase with
    | idle => exact iff_of_false (not_abandoned_start r request) (by simp [Abandoned, hphase])
    | debouncing pending timer generation => rfl
    | checking request' queued => rfl

theorem abandoned_expire_iff (r : Reactor) (timer : Nat) (isRoot : Except Failure Bool) :
    Abandoned (r.expire timer isRoot).1 ↔ Abandoned r := by
  unfold Reactor.expire
  cases hdue : r.due? timer with
  | none => rfl
  | some pending =>
      obtain ⟨-, current, generation, -, hphase, -⟩ := (due?_eq_some_iff r timer pending).mp hdue
      cases isRoot with
      | ok isRoot => exact iff_of_false (not_abandoned_start r _) (by simp [Abandoned, hphase])
      | error failure => rfl

theorem abandoned_close_iff (r : Reactor) : Abandoned r.close ↔ Abandoned r := by
  unfold Reactor.close
  cases hphase : r.phase with
  | idle => simp [Abandoned, hphase]
  | debouncing pending timer generation => simp [Abandoned, hphase]
  | checking request queued => simp [Abandoned, hphase]

theorem abandoned_step_iff {r : Reactor} (hsound : Sound r) (i : Input) :
    Abandoned (r.step i).1 ↔ Abandoned r ∨ GivesUp r i := by
  cases i with
  | notify path => exact (abandoned_notify_iff r path).trans (or_iff_left (by rintro ⟨⟩)).symm
  | trigger request =>
      exact (abandoned_trigger_iff r request).trans (or_iff_left (by rintro ⟨⟩)).symm
  | markFired timer => exact (or_iff_left (by rintro ⟨⟩)).symm
  | expire timer isRoot =>
      exact (abandoned_expire_iff r timer isRoot).trans (or_iff_left (by rintro ⟨⟩)).symm
  | answered ticket a =>
      simp only [step]
      cases hc : r.cycle? ticket with
      | none =>
          refine (or_iff_left ?_).symm
          rintro (⟨hc', -⟩ | ⟨hc', -, -⟩ | ⟨hc', -, -, -, -⟩) <;> simp [hc] at hc'
      | some c =>
          have hbusy : ¬ Abandoned r := by simp [Abandoned, (hsound.of_cycle? hc).1]
          exact (abandoned_answer_iff hsound hc a).trans (or_iff_right hbusy).symm
  | close => exact (abandoned_close_iff r).trans (or_iff_left (by rintro ⟨⟩)).symm

theorem abandoned_run_iff {r : Reactor} (hsound : Sound r) (hr : ¬ Abandoned r)
    (inputs : List Input) : Abandoned (run r inputs) ↔ Happens r inputs GivesUp := by
  induction inputs using List.reverseRecOn with
  | nil => exact iff_of_false hr (not_happens_nil r GivesUp)
  | append_singleton inputs i ih =>
      rw [run_concat, abandoned_step_iff (hsound.run inputs), ih, happens_concat_iff]

theorem live_of_debounceThen {r : Reactor} {waiting pending : List Text} {effect : Effect}
    {timer generation : Nat}
    (hdelay : ∀ pending timer generation, r.phase = .debouncing pending timer generation →
      ∃ delay, r.debounceMillis.thousandth = .ok delay)
    (h : (r.debounceThen waiting effect).1.phase = .debouncing pending timer generation) :
    timer ∈ (r.debounceThen waiting effect).1.liveTimers := by
  rcases debounceThen_cases r waiting effect with ⟨delay, -, heq⟩ | ⟨fault, hfault, heq⟩
  · rw [heq] at h ⊢
    obtain ⟨-, rfl, -⟩ := Phase.debouncing.inj h
    exact (mem_liveTimers_iff _ _).mpr ⟨_, List.getElem?_concat_length, rfl, rfl⟩
  · rw [heq] at h
    obtain ⟨delay, hok⟩ := hdelay pending timer generation h
    simp [hfault] at hok

theorem live_of_notify {r : Reactor} (hsound : Sound r) (hopen : r.closed = false)
    {path : Text} {pending : List Text} {timer generation : Nat}
    (h : (r.notify path).1.phase = .debouncing pending timer generation) :
    timer ∈ (r.notify path).1.liveTimers := by
  have hdelay : ∀ pending timer generation, r.phase = .debouncing pending timer generation →
      ∃ delay, r.debounceMillis.thousandth = .ok delay :=
    fun pending timer generation hphase => (hsound.burst pending timer generation hphase).2.1
  simp only [Reactor.notify, hopen, Bool.false_eq_true, if_false] at h ⊢
  cases hphase : r.phase with
  | idle =>
      simp only [hphase] at h
      exact live_of_debounceThen hdelay h
  | debouncing pending' timer' generation' =>
      simp only [hphase] at h
      exact live_of_debounceThen (r := r.cancel timer') hdelay h
  | checking request queued => simp [hphase] at h

theorem live_of_answer {r : Reactor} (hsound : Sound r) {ticket : Nat} {c : Cycle}
    (hc : r.cycle? ticket = some c) {a : Answer} {pending : List Text} {timer generation : Nat}
    (h : (r.answer c a).1.phase = .debouncing pending timer generation) :
    timer ∈ (r.answer c a).1.liveTimers := by
  obtain ⟨-, -, queued, hphase⟩ := hsound.of_cycle? hc
  rw [answer_eq] at h ⊢
  cases hturn : turn r.closed c.ticket c.awaiting a with
  | continues awaiting effect => simp [hturn, advance, hphase] at h
  | settles effect =>
      simp only [hturn] at h ⊢
      rcases settle_cases r c.ticket effect with ⟨request, path, waiting, -, -, heq⟩ | ⟨-, heq⟩
      · rw [heq] at h ⊢
        exact live_of_debounceThen (by simp [drop, hphase]) h
      · simp [heq] at h
  | abandons failure => simp [hturn, drop, hphase] at h

theorem debouncing_step_cases {r : Reactor} (hsound : Sound r) {i : Input}
    {pending : List Text} {timer generation : Nat}
    (h : (r.step i).1.phase = .debouncing pending timer generation) :
    timer ∈ (r.step i).1.liveTimers ∨
      (r.phase = .debouncing pending timer generation ∧
        ((∃ k, i = .markFired k) ∨ (r.step i).1 = r)) := by
  have hsame : (r.step i).1 = r → timer ∈ (r.step i).1.liveTimers ∨
      (r.phase = .debouncing pending timer generation ∧
        ((∃ k, i = .markFired k) ∨ (r.step i).1 = r)) :=
    fun heq => .inr ⟨by rwa [heq] at h, .inr heq⟩
  cases i with
  | notify path =>
      cases hclosed : r.closed with
      | true => exact hsame (by simp [step, notify, hclosed])
      | false => exact .inl (live_of_notify hsound hclosed h)
  | trigger request =>
      cases hclosed : r.closed with
      | true => exact hsame (by simp [step, trigger, hclosed])
      | false =>
          cases hphase : r.phase with
          | idle => simp [step, trigger, hclosed, hphase, start] at h
          | debouncing pending' timer' generation' =>
              exact hphase ▸ hsame (by simp [step, trigger, hclosed, hphase])
          | checking request' queued =>
              exact hphase ▸ hsame (by simp [step, trigger, hclosed, hphase])
  | markFired k => exact .inr ⟨h, .inl ⟨k, rfl⟩⟩
  | expire k isRoot =>
      cases hdue : r.due? k with
      | none => exact hsame (by simp [step, expire, hdue])
      | some waiting =>
          cases isRoot with
          | ok isRoot => simp [step, expire, hdue, start] at h
          | error failure => exact hsame (by simp [step, expire, hdue])
  | answered ticket a =>
      cases hc : r.cycle? ticket with
      | none => exact hsame (by simp [step, hc])
      | some c =>
          have hanswer : r.step (.answered ticket a) = r.answer c a := by simp [step, hc]
          rw [hanswer] at h ⊢
          exact .inl (live_of_answer hsound hc h)
  | close =>
      simp only [step, close] at h
      cases hphase : r.phase <;> simp [hphase] at h

theorem fired_timer_cases {r : Reactor} (hsound : Sound r) (hidle : r.phase = .idle)
    (inputs : List Input) :
    ∀ {pending : List Text} {timer generation : Nat} {t : Timer},
      (run r inputs).phase = .debouncing pending timer generation →
      (run r inputs).timers[timer]? = some t → t.fired = true →
      timer ∈ callbacks inputs ∨ Happens r inputs (ChoiceFails timer) := by
  induction inputs using List.reverseRecOn with
  | nil =>
      intro pending timer generation t hphase
      simp [hidle] at hphase
  | append_singleton inputs i ih =>
      intro pending timer generation t hphase ht hfired
      rw [run_concat] at hphase ht
      rw [callbacks_concat, happens_concat_iff]
      -- A new timer has not fired. The callback of one that fired waits until its turn comes, and
      -- the burst outlives this turn only if the choice of the check fails.
      rcases debouncing_step_cases (hsound.run inputs) hphase with
        hlive | ⟨hbefore, ⟨k, rfl⟩ | hsame⟩
      · obtain ⟨t', ht', -, hlive⟩ := (mem_liveTimers_iff _ timer).mp hlive
        obtain rfl := Option.some.inj (ht'.symm.trans ht)
        simp [hlive] at hfired
      · by_cases hk : k = timer
        · exact .inl (by simp [awaitTurns, hk])
        · have hother : (run r inputs).timers[timer]? = some t := by
            simpa [step, Reactor.markFired, List.getElem?_modify, hk] using ht
          exact (ih hbefore hother hfired).imp (List.mem_cons_of_mem k) .inl
      · rw [hsame] at ht
        rcases ih hbefore ht hfired with hwaits | hfails
        · cases i with
          | markFired k => exact .inl (List.mem_cons_of_mem k hwaits)
          | expire k isRoot =>
              by_cases hk : k = timer
              · subst hk
                have hopen := ((hsound.run inputs).burst pending k generation hbefore).1
                have hdue :=
                  ((hsound.run inputs).due?_eq_some_iff k pending).mpr ⟨hopen, generation, hbefore⟩
                cases isRoot with
                | ok isRoot =>
                    have hchecking := congrArg Reactor.phase hsame
                    simp [step, expire, hdue, start, hbefore] at hchecking
                | error failure => exact .inr (.inr (.mk hdue ht hfired))
              · exact .inl ((List.mem_erase_of_ne (Ne.symm hk)).mpr hwaits)
          | notify | trigger | answered | close => exact .inl hwaits
        · exact .inr (.inl hfails)

theorem ages_run (r : Reactor) (inputs : List Input) : Ages r.timers (run r inputs).timers :=
  run_induction (P := fun r' => Ages r.timers r'.timers)
    (fun r' i h => h.trans (ages_step r' i)) (ages_refl r.timers) inputs

theorem fired_of_choiceFails {r : Reactor} {inputs : List Input} {timer : Nat}
    (h : Happens r inputs (ChoiceFails timer)) :
    ∃ t, (run r inputs).timers[timer]? = some t ∧ t.fired = true := by
  obtain ⟨before, i, after, rfl, ⟨-, ht, hfired⟩⟩ := h
  obtain ⟨t', ht', -, hfired'⟩ := ages_run (run r before) (_ :: after) timer _ ht
  exact ⟨t', by rw [run_append, ht'], hfired' hfired⟩

/-- While a burst goes on, its timer will end it unless the choice of the check failed. -/
theorem live_iff_not_choiceFails {r : Reactor} (hsound : Sound r) (hidle : r.phase = .idle)
    {inputs : List Input} (hcallbacks : callbacks inputs = []) {pending : List Text}
    {timer generation : Nat}
    (hphase : (run r inputs).phase = .debouncing pending timer generation) :
    timer ∈ (run r inputs).liveTimers ↔ ¬ Happens r inputs (ChoiceFails timer) := by
  obtain ⟨-, -, -, t, ht, hcancelled, -⟩ :=
    (hsound.run inputs).burst pending timer generation hphase
  rw [mem_liveTimers_iff]
  constructor
  · rintro ⟨t', ht', -, hlive⟩ hfails
    obtain ⟨t'', ht'', hfired⟩ := fired_of_choiceFails hfails
    obtain rfl := Option.some.inj (ht'.symm.trans ht'')
    simp [hlive] at hfired
  · intro hfails
    refine ⟨t, ht, hcancelled, ?_⟩
    by_contra hfired
    rcases fired_timer_cases hsound hidle inputs hphase ht (by simpa using hfired) with
      hwaits | hhappens
    · simp [hcallbacks] at hwaits
    · exact hfails hhappens

theorem reported_iff {r : Reactor} {i : Input} {failure : Failure} (h : Raises r i failure) :
    (∃ ticket, (r.step i).2 = .report ticket failure) ↔
      ∀ timer isRoot, i ≠ .expire timer isRoot := by
  cases h with
  | choosing hdue => simp [step, expire, hdue]
  | @running ticket c failure hc hawaiting hfailure =>
      have hticket : c.ticket = ticket := by simpa using List.find?_some hc
      refine iff_of_true ⟨ticket, ?_⟩ (by simp)
      rcases hawaiting with hrunning | hdelivering
      · simp [step, hc, answer, hrunning, hfailure, hticket]
      · simp [step, hc, answer, hdelivering, hfailure, hticket]

/-- While no method of the reactor is at work, it is at rest exactly if no check was given up and
the choice of the next check did not fail. Of the failures while a check is chosen, run or
delivered, those of the choice are the ones that are not reported. -/
theorem atRest_iff (millis : Number) (inputs : List Input) :
    (Quiet (fresh millis) inputs →
      (AtRest (run (fresh millis) inputs) ↔
        ¬ Happens (fresh millis) inputs GivesUp ∧
          ∀ pending timer generation,
            (run (fresh millis) inputs).phase = .debouncing pending timer generation →
            ¬ Happens (fresh millis) inputs (ChoiceFails timer))) ∧
    (∀ before i after failure, inputs = before ++ i :: after →
      Raises (run (fresh millis) before) i failure →
        ((∃ ticket, ((run (fresh millis) before).step i).2 = .report ticket failure) ↔
          ∀ timer isRoot, i ≠ .expire timer isRoot)) := by
  have hsound := sound_fresh millis
  have hbusy : ¬ Abandoned (fresh millis) := by simp [Abandoned, fresh]
  refine ⟨?_, fun before i after failure _ hraises => reported_iff hraises⟩
  rintro ⟨hcycles, hcallbacks⟩
  rw [← abandoned_run_iff hsound hbusy, AtRest]
  cases hphase : (run (fresh millis) inputs).phase with
  | idle => simp [Abandoned, hphase]
  | checking request queued => simp [Abandoned, hphase, hcycles]
  | debouncing pending timer generation =>
      have hlive := live_iff_not_choiceFails hsound rfl hcallbacks hphase
      simp [Abandoned, hphase, hlive]

/-- A check crashes, and its failure is reported. -/
def reported : List Input :=
  [.trigger .whole, .answered 0 (.raised (.crash [])), .answered 0 .returned]

theorem atRest_iff_reported :
    Quiet (fresh (.whole 50)) reported ∧ ¬ Happens (fresh (.whole 50)) reported GivesUp ∧
      ∃ ticket, ((run (fresh (.whole 50)) [.trigger .whole]).step
        (.answered 0 (.raised (.crash [])))).2 = .report ticket (.crash []) := by
  have hquiet : Quiet (fresh (.whole 50)) reported := ⟨rfl, rfl⟩
  obtain ⟨hrest, hreports⟩ := atRest_iff (.whole 50) reported
  refine ⟨hquiet, ((hrest hquiet).mp (.inl rfl)).1, ?_⟩
  have hraises : Raises (run (fresh (.whole 50)) [.trigger .whole])
      (.answered 0 (.raised (.crash []))) (.crash []) := .running rfl (.inl rfl) rfl
  exact (hreports [.trigger .whole] _ [.answered 0 .returned] (.crash []) rfl hraises).mpr
    (by simp)

/-- A check crashes, and so does the report of its failure. -/
def lostReport : List Input :=
  [.trigger .whole, .answered 0 (.raised (.crash [])), .answered 0 (.raised (.crash []))]

/-- A burst ends, and whether its file is a source file cannot be told. -/
def lostChoice : List Input := [.notify ['a'], .markFired 0, .expire 0 (.error (.crash []))]

/-- Neither run leaves the reactor at rest, and the failure of the choice is not reported. -/
theorem not_atRest_lostReport :
    (Quiet (fresh (.whole 50)) lostReport ∧ ¬ AtRest (run (fresh (.whole 50)) lostReport)) ∧
    Quiet (fresh (.whole 50)) lostChoice ∧ ¬ AtRest (run (fresh (.whole 50)) lostChoice) ∧
      ((run (fresh (.whole 50)) [.notify ['a'], .markFired 0]).step
        (.expire 0 (.error (.crash [])))).2 = .escaped (.crash []) := by
  have hchecking : (run (fresh (.whole 50)) lostReport).phase = .checking .whole [] := rfl
  have hdebouncing : (run (fresh (.whole 50)) lostChoice).phase = .debouncing [['a']] 0 1 := rfl
  have hlive : (run (fresh (.whole 50)) lostChoice).liveTimers = [] := rfl
  refine ⟨⟨⟨rfl, rfl⟩, ?_⟩, ⟨rfl, rfl⟩, ?_, rfl⟩
  · simp [AtRest, hchecking]
  · simp [AtRest, hdebouncing, hlive]

end Recheck.Proofs.ReactorRest
