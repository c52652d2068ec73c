import Recheck.Proofs.ReactorClosing
import Recheck.Proofs.ReactorNotifications

/-!
The timers of bursts. At most one timer is outstanding, the state's own, and it has the latest
generation; callbacks of all others come to nothing.
-/

namespace Recheck.Proofs.ReactorTimers

open Recheck.Reactor
open Recheck.Proofs.ReactorRuns
open Recheck.Proofs.ReactorRest
open Recheck.Proofs.ReactorClosing
open Recheck.Proofs.ReactorNotifications

theorem debounceMillis_step (r : Reactor) (i : Input) :
    (r.step i).1.debounceMillis = r.debounceMillis := by
  by_cases hi : i = .close
  · subst hi
    simp only [Reactor.step, Reactor.close]
    split <;> rfl
  · exact (sameSetup_step r hi).2

theorem debounceMillis_run (r : Reactor) (inputs : List Input) :
    (run r inputs).debounceMillis = r.debounceMillis :=
  run_induction (P := fun r' => r'.debounceMillis = r.debounceMillis)
    (fun r' i h => (debounceMillis_step r' i).trans h) rfl inputs

def asked : Effect → List Request
  | .run _ request => [request]
  | _ => []

/-- The checks that are started along a run, in their order. -/
def started (r : Reactor) : List Input → List Request
  | [] => []
  | i :: inputs => asked (r.step i).2 ++ started (r.step i).1 inputs

theorem asked_of_not_starts {effect : Effect} (h : ¬ Starts effect) : asked effect = [] := by
  cases effect with
  | run ticket request => exact absurd ⟨ticket, request, rfl⟩ h
  | done | declined | deliver | report | settled | escaped => rfl

theorem started_append (r : Reactor) (before after : List Input) :
    started r (before ++ after) = started r before ++ started (run r before) after := by
  induction before generalizing r with
  | nil => rfl
  | cons i before ih => simp [started, ih]

/-- A callback of a timer that is not the state's comes to nothing. -/
theorem step_of_stale {r : Reactor} (hsound : Sound r) {timer : Nat}
    (h : ∀ pending generation, r.phase ≠ .debouncing pending timer generation)
    (isRoot : Except Failure Bool) : r.step (.expire timer isRoot) = (r, .done) := by
  simp [step, expire, hsound.due?_eq_none h]

def callback (call : Nat × Except Failure Bool) : Input := .expire call.1 call.2

theorem run_of_stale {r : Reactor} (hsound : Sound r)
    {calls : List (Nat × Except Failure Bool)}
    (h : ∀ call ∈ calls, ∀ pending generation,
      r.phase ≠ .debouncing pending call.1 generation) :
    run r (calls.map callback) = r ∧ started r (calls.map callback) = [] := by
  induction calls with
  | nil => exact ⟨rfl, rfl⟩
  | cons call calls ih =>
      obtain ⟨hcall, hcalls⟩ := List.forall_mem_cons.mp h
      have hstep : r.step (callback call) = (r, .done) := step_of_stale hsound hcall call.2
      obtain ⟨hrun, hstarted⟩ := ih hcalls
      simp [started, hstep, asked, hrun, hstarted]

theorem started_notifications (r : Reactor) (paths : List Text) :
    started r (paths.map .notify) = [] := by
  induction paths generalizing r with
  | nil => rfl
  | cons path paths ih =>
      have hnone := asked_of_not_starts (not_starts_notify r path)
      simpa [started, step, hnone] using ih _

theorem not_mem_notifications (paths : List Text) : Input.close ∉ paths.map Input.notify := by
  simp

theorem debouncing_notify {r : Reactor} (h : Ready r)
    (hfree : ∀ request queued, r.phase ≠ .checking request queued) (path : Text) :
    ∃ timer generation, (r.notify path).1.phase =
      .debouncing (appendUnique (held r.phase) path) timer generation := by
  obtain ⟨delay, hdelay⟩ := h.timed
  cases hphase : r.phase with
  | idle => simp [notify, h.isOpen, hphase, debounceThen, hdelay, debounce, held, appendUnique]
  | debouncing pending timer generation =>
      simp [notify, h.isOpen, hphase, debounceThen, cancel, hdelay, debounce, held]
  | checking request queued => exact absurd hphase (hfree request queued)

theorem debouncing_notifications {r : Reactor} (h : Ready r) (hidle : r.phase = .idle)
    {paths : List Text} (hne : paths ≠ []) :
    ∃ timer generation,
      (run r (paths.map .notify)).phase = .debouncing paths.eraseDups timer generation := by
  induction paths using List.reverseRecOn with
  | nil => exact absurd rfl hne
  | append_singleton paths path ih =>
      rw [List.map_append, List.map_singleton, run_concat, eraseDups_concat, step]
      by_cases hnil : paths = []
      · subst hnil
        simpa [hidle, held] using debouncing_notify h (by simp [hidle]) path
      · obtain ⟨timer, generation, hphase⟩ := ih hnil
        have hready := h.run (not_mem_notifications paths)
        simpa [hphase, held] using debouncing_notify hready (by simp [hphase]) path

theorem started_firing {r : Reactor} (hsound : Sound r) {pending : List Text}
    {timer generation : Nat} (hphase : r.phase = .debouncing pending timer generation)
    (isRoot : Bool) :
    started r [.markFired timer, .expire timer (.ok isRoot)] = [requestFor pending isRoot] := by
  have hopen := (hsound.burst pending timer generation hphase).1
  have hdue : (r.markFired timer).due? timer = some pending :=
    ((hsound.markFired timer).due?_eq_some_iff timer pending).mpr ⟨hopen, generation, hphase⟩
  simp [started, step, expire, hdue, start, asked]

theorem ready_of_idle {r : Reactor} (hsound : Sound r) (hidle : r.phase = .idle)
    (hopen : r.closed = false) (htimed : ∃ delay, r.debounceMillis.thousandth = .ok delay) :
    Ready r :=
  ⟨hsound, hopen, htimed, [], by rw [hidle, held, List.eraseDups_nil]⟩

theorem ready_of_burst {r : Reactor} (hsound : Sound r) (hidle : r.phase = .idle)
    {paths pending : List Text} {timer generation : Nat}
    (hphase : (run r (paths.map .notify)).phase = .debouncing pending timer generation) :
    Ready r := by
  obtain ⟨hclosed, hmillis⟩ := sameSetup_run r (not_mem_notifications paths)
  obtain ⟨hopen, htimed, -⟩ := (hsound.run _).burst pending timer generation hphase
  exact ready_of_idle hsound hidle (hclosed ▸ hopen) (hmillis ▸ htimed)

theorem burst_iff {r : Reactor} (hsound : Sound r) (hidle : r.phase = .idle) {paths : List Text}
    (hne : paths ≠ []) :
    (∃ pending generation, ∃ timer ∈ (run r (paths.map .notify)).liveTimers,
      (run r (paths.map .notify)).phase = .debouncing pending timer generation) ↔
      r.closed = false ∧ ∃ delay, r.debounceMillis.thousandth = .ok delay := by
  constructor
  · rintro ⟨pending, generation, timer, -, hphase⟩
    have hready := ready_of_burst hsound hidle hphase
    exact ⟨hready.isOpen, hready.timed⟩
  · rintro ⟨hopen, htimed⟩
    have hready := ready_of_idle hsound hidle hopen htimed
    obtain ⟨timer, generation, hphase⟩ := debouncing_notifications hready hidle hne
    refine ⟨_, generation, timer, ?_, hphase⟩
    obtain ⟨before, path, rfl⟩ := List.eq_nil_or_concat paths |>.resolve_left hne
    rw [List.concat_eq_append, List.map_append, List.map_singleton, run_concat] at hphase ⊢
    have hbefore := hready.run (not_mem_notifications before)
    exact live_of_notify hbefore.sound hbefore.isOpen hphase

theorem started_burst {r : Reactor} (hsound : Sound r) (hidle : r.phase = .idle)
    {paths : List Text} (hne : paths ≠ []) {pending : List Text} {timer generation : Nat}
    (hphase : (run r (paths.map .notify)).phase = .debouncing pending timer generation)
    (isRoot : Bool) :
    started r (paths.map .notify ++ [.markFired timer, .expire timer (.ok isRoot)]) =
      [requestFor paths.eraseDups isRoot] := by
  have hready := ready_of_burst hsound hidle hphase
  obtain ⟨timer', generation', hphase'⟩ := debouncing_notifications hready hidle hne
  obtain ⟨rfl, rfl, -⟩ := Phase.debouncing.inj (hphase.symm.trans hphase')
  rw [started_append, started_notifications, started_firing (hsound.run _) hphase, List.nil_append]

/-- At most one timer is outstanding. It is the timer of the state, its generation is the one in
the state, and that is the latest that was handed out. Callbacks have the generation in the state
exactly if they are of its timer, and the others come to nothing, however many are called. So a
burst and the firing of its timer start one check; and a burst has a timer unless the reactor is
closed or no timer can run for the debounce time. -/
theorem one_current_timer (millis : Number) (inputs : List Input) :
    (∀ timer timer', Outstanding (fresh millis) inputs timer →
      Outstanding (fresh millis) inputs timer' → timer = timer') ∧
    (∀ timer, Outstanding (fresh millis) inputs timer →
      ∃ pending t, (run (fresh millis) inputs).timers[timer]? = some t ∧
        (run (fresh millis) inputs).phase = .debouncing pending timer t.generation ∧
        t.generation = (run (fresh millis) inputs).generation) ∧
    (∀ t ∈ (run (fresh millis) inputs).timers,
      t.generation ≤ (run (fresh millis) inputs).generation) ∧
    (∀ pending current generation timer t,
      (run (fresh millis) inputs).phase = .debouncing pending current generation →
      (run (fresh millis) inputs).timers[timer]? = some t →
      (t.generation = generation ↔ timer = current)) ∧
    (∀ calls : List (Nat × Except Failure Bool),
      (∀ call ∈ calls, ∀ pending generation,
        (run (fresh millis) inputs).phase ≠ .debouncing pending call.1 generation) →
      run (run (fresh millis) inputs) (calls.map callback) = run (fresh millis) inputs ∧
        started (run (fresh millis) inputs) (calls.map callback) = []) ∧
    ((run (fresh millis) inputs).phase = .idle → ∀ paths : List Text, paths ≠ [] →
      (∀ timer isRoot, Outstanding (fresh millis) (inputs ++ paths.map .notify) timer →
        started (run (fresh millis) inputs)
          (paths.map .notify ++ [.markFired timer, .expire timer (.ok isRoot)]) =
            [requestFor paths.eraseDups isRoot]) ∧
      ((∃ pending generation,
        ∃ timer ∈ (run (fresh millis) (inputs ++ paths.map .notify)).liveTimers,
          (run (fresh millis) (inputs ++ paths.map .notify)).phase =
            .debouncing pending timer generation) ↔
          (run (fresh millis) inputs).closed = false ∧
            ∃ delay, millis.thousandth = .ok delay)) := by
  have hsound := (sound_fresh millis).run inputs
  refine ⟨?_, ?_, ?_, ?_, fun calls => run_of_stale hsound, ?_⟩
  · intro timer timer' h h'
    obtain ⟨pending, generation, hphase⟩ := debouncing_of_outstanding millis inputs h
    obtain ⟨pending', generation', hphase'⟩ := debouncing_of_outstanding millis inputs h'
    exact (Phase.debouncing.inj (hphase.symm.trans hphase')).2.1
  · intro timer h
    obtain ⟨pending, generation, hphase⟩ := debouncing_of_outstanding millis inputs h
    obtain ⟨-, -, hlatest, t, ht, -, rfl⟩ := hsound.burst pending timer generation hphase
    exact ⟨pending, t, ht, hphase, hlatest⟩
  · intro t ht
    exact hsound.stamped.bounded t.generation (List.mem_map_of_mem ht)
  · intro pending current generation timer t hphase ht
    obtain ⟨-, -, -, t', ht', -, rfl⟩ := hsound.burst pending current generation hphase
    constructor
    · exact hsound.stamped.eq_of_generation ht ht'
    · rintro rfl
      rw [Option.some.inj (ht.symm.trans ht')]
  · intro hidle paths hne
    rw [run_append]
    refine ⟨?_, ?_⟩
    · intro timer isRoot h
      obtain ⟨pending, generation, hphase⟩ := debouncing_of_outstanding millis _ h
      rw [run_append] at hphase
      exact started_burst hsound hidle hne hphase isRoot
    · rw [burst_iff hsound hidle hne, debounceMillis_run]
      rfl

/-- The second notification takes the place of the timer of the first. -/
def superseded : List Input := [.notify ['a'], .notify ['b']]

theorem one_current_timer_superseded :
    Outstanding (fresh (.whole 50)) superseded 1 ∧
      (∃ t, (run (fresh (.whole 50)) superseded).timers[1]? = some t ∧
        t.generation = (run (fresh (.whole 50)) superseded).generation) ∧
      run (run (fresh (.whole 50)) superseded)
        [.expire 0 (.ok true), .expire 0 (.error .interrupted)] =
          run (fresh (.whole 50)) superseded ∧
      started (fresh (.whole 50)) [.notify ['a'], .notify ['b'], .notify ['a'], .markFired 2,
        .expire 2 (.ok true)] = [.changed [['a'], ['b']]] := by
  have hlive : Outstanding (fresh (.whole 50)) superseded 1 := by
    refine ⟨?_, by simp [superseded]⟩
    rw [mem_liveTimers_iff]
    exact ⟨_, rfl, rfl, rfl⟩
  have hlive' : Outstanding (fresh (.whole 50)) ([['a'], ['b'], ['a']].map .notify) 2 := by
    refine ⟨?_, by simp⟩
    rw [mem_liveTimers_iff]
    exact ⟨_, rfl, rfl, rfl⟩
  obtain ⟨-, hcurrent, -, -, hstale, -⟩ := one_current_timer (.whole 50) superseded
  obtain ⟨-, -, -, -, -, hburst⟩ := one_current_timer (.whole 50) []
  obtain ⟨pending, t, ht, hphase, hlatest⟩ := hcurrent 1 hlive
  refine ⟨hlive, ⟨t, ht, hlatest⟩, ?_, ?_⟩
  · refine (hstale [(0, .ok true), (0, .error .interrupted)] ?_).1
    simp [hphase]
  · exact (hburst rfl [['a'], ['b'], ['a']] (by simp)).1 2 true hlive'

end Recheck.Proofs.ReactorTimers
