import Recheck.Proofs.ReactorRest

/-!
At most one check is under way. From the input that puts a check into the state until its cycle
settles, the reactor is checking, and with no other request than that of the check.
-/

namespace Recheck.Proofs.ReactorExclusion

open Recheck.Reactor
open Recheck.Proofs.ReactorRuns
open Recheck.Proofs.ReactorRest

/-- Files wait at the end of a check, and no timer can run for the debounce time. -/
def Untimed (r : Reactor) : Prop :=
  ∃ request path queued fault, r.phase = .checking request (path :: queued) ∧
    r.closed = false ∧ r.debounceMillis.thousandth = .error fault

/-- The cycle of a ticket settles: it has nothing left to ask for, and the files that wait get a
timer. -/
inductive Settles (ticket : Nat) (r : Reactor) : Input → Prop
  | mk {c : Cycle} {a : Answer} {effect : Effect} (hc : r.cycle? ticket = some c)
      (hturn : turn r.closed ticket c.awaiting a = .settles effect) (htimed : ¬ Untimed r) :
      Settles ticket r (.answered ticket a)

/-- A check was put into the state at some input of a run, and its cycle has not settled since.
Its run may not have been entered yet, be under way, or have been given up. -/
def Unsettled (r : Reactor) (inputs : List Input) (ticket : Nat) (request : Request) : Prop :=
  ∃ before i after, inputs = before ++ i :: after ∧
    ((run r before).step i).2 = .run ticket request ∧
      ¬ Happens (run r (before ++ [i])) after (Settles ticket)

/-- The reactor is checking with a request. -/
def Checks (r : Reactor) (request : Request) : Prop :=
  ∃ queued, r.phase = .checking request queued

theorem not_unsettled_nil (r : Reactor) (ticket : Nat) (request : Request) :
    ¬ Unsettled r [] ticket request := by
  rintro ⟨before, i, after, h, -⟩
  simp at h

theorem unsettled_concat_iff (r : Reactor) (inputs : List Input) (i : Input) (ticket : Nat)
    (request : Request) :
    Unsettled r (inputs ++ [i]) ticket request ↔
      ((run r inputs).step i).2 = .run ticket request ∨
        Unsettled r inputs ticket request ∧ ¬ Settles ticket (run r inputs) i := by
  constructor
  · rintro ⟨before, j, after, heq, hstart, hopen⟩
    rcases List.eq_nil_or_concat after with rfl | ⟨after', k, rfl⟩
    · obtain ⟨rfl, hlast⟩ := List.append_inj' heq rfl
      obtain rfl : i = j := by simpa using hlast
      exact .inl hstart
    · right
      have hconcat : inputs ++ [i] = (before ++ j :: after') ++ [k] := by simp [heq]
      obtain ⟨rfl, hlast⟩ := List.append_inj' hconcat rfl
      obtain rfl : i = k := by simpa using hlast
      rw [List.concat_eq_append, happens_concat_iff, not_or, ← run_append] at hopen
      refine ⟨⟨before, j, after', rfl, hstart, hopen.1⟩, ?_⟩
      simpa using hopen.2
  · rintro (hstart | ⟨⟨before, j, after, rfl, hstart, hopen⟩, hsettles⟩)
    · exact ⟨inputs, i, [], rfl, hstart, not_happens_nil _ _⟩
    · refine ⟨before, j, after ++ [i], by simp, hstart, ?_⟩
      rw [happens_concat_iff, not_or, ← run_append]
      exact ⟨hopen, by simpa using hsettles⟩

/-- Every cycle of a state is a cycle of an earlier one, as far as its ticket and its request
go. -/
def CyclesOf (r r' : Reactor) : Prop :=
  ∀ c' ∈ r'.cycles, ∃ c ∈ r.cycles, c.ticket = c'.ticket ∧ c.request = c'.request

/-- The reactor checks what it checked before, in cycles that it had before. -/
structure SameChecks (r r' : Reactor) : Prop where
  checks : ∀ request, Checks r' request ↔ Checks r request
  cycles : CyclesOf r r'

theorem sameChecks_of_eq {r r' : Reactor} (hphase : r'.phase = r.phase)
    (hcycles : r'.cycles = r.cycles) : SameChecks r r' :=
  ⟨fun request => by rw [Checks, Checks, hphase],
    fun c' hc' => ⟨c', hcycles ▸ hc', rfl, rfl⟩⟩

theorem sameChecks_of_not_checking {r r' : Reactor}
    (hphase : ∀ request, ¬ Checks r request) (hphase' : ∀ request, ¬ Checks r' request)
    (hcycles : r'.cycles = r.cycles) : SameChecks r r' :=
  ⟨fun request => iff_of_false (hphase' request) (hphase request),
    fun c' hc' => ⟨c', hcycles ▸ hc', rfl, rfl⟩⟩

theorem sameChecks_drop (r : Reactor) (ticket : Nat) : SameChecks r (r.drop ticket) :=
  ⟨fun _ => Iff.rfl, fun c' hc' => ⟨c', (List.mem_filter.mp hc').1, rfl, rfl⟩⟩

theorem sameChecks_advance (r : Reactor) (ticket : Nat) (awaiting : Awaiting) :
    SameChecks r (r.advance ticket awaiting) := by
  refine ⟨fun _ => Iff.rfl, fun c' hc' => ?_⟩
  obtain ⟨c, hc, rfl⟩ := List.mem_map.mp hc'
  refine ⟨c, hc, ?_⟩
  split <;> exact ⟨rfl, rfl⟩

theorem sameChecks_debounceThen {r r' : Reactor} (hphase : ∀ request, ¬ Checks r request)
    (hphase' : r'.phase = r.phase) (hcycles : r'.cycles = r.cycles) (pending : List Text)
    (effect : Effect) : SameChecks r (r'.debounceThen pending effect).1 := by
  rcases debounceThen_cases r' pending effect with ⟨delay, -, heq⟩ | ⟨fault, -, heq⟩
  · rw [heq]
    exact sameChecks_of_not_checking hphase (by simp [Checks, debounce]) hcycles
  · rw [heq]
    exact sameChecks_of_eq hphase' hcycles

theorem sameChecks_notify (r : Reactor) (path : Text) : SameChecks r (r.notify path).1 := by
  unfold Reactor.notify
  split
  · exact sameChecks_of_eq rfl rfl
  · cases hphase : r.phase with
    | idle => exact sameChecks_debounceThen (by simp [Checks, hphase]) rfl rfl _ _
    | debouncing pending timer generation =>
        have hcancel : (r.cancel timer).phase = r.phase := rfl
        exact sameChecks_debounceThen (by simp [Checks, hphase]) hcancel rfl _ _
    | checking request queued =>
        exact ⟨fun request' => by simp [Checks, hphase], fun c' hc' => ⟨c', hc', rfl, rfl⟩⟩

theorem sameChecks_trigger {r : Reactor} {request : Request}
    (h : ¬ Starts (r.trigger request).2) : SameChecks r (r.trigger request).1 := by
  unfold Reactor.trigger at h ⊢
  cases hclosed : r.closed with
  | true => exact sameChecks_of_eq (by simp) (by simp)
  | false =>
      cases hphase : r.phase with
      | idle => exact absurd ⟨r.started, request, by simp [hclosed, hphase, start]⟩ h
      | debouncing pending timer generation => exact sameChecks_of_eq (by simp) (by simp)
      | checking request' queued => exact sameChecks_of_eq (by simp) (by simp)

theorem sameChecks_expire {r : Reactor} {timer : Nat} {isRoot : Except Failure Bool}
    (h : ¬ Starts (r.expire timer isRoot).2) : SameChecks r (r.expire timer isRoot).1 := by
  unfold Reactor.expire at h ⊢
  cases hdue : r.due? timer with
  | none => exact sameChecks_of_eq rfl rfl
  | some pending =>
      cases isRoot with
      | ok isRoot =>
          exact absurd ⟨r.started, requestFor pending isRoot, by simp [hdue, start]⟩ h
      | error failure => exact sameChecks_of_eq rfl rfl

theorem sameChecks_close (r : Reactor) : SameChecks r r.close := by
  unfold Reactor.close
  cases hphase : r.phase with
  | idle => exact sameChecks_of_eq hphase.symm rfl
  | debouncing pending timer generation =>
      exact sameChecks_of_not_checking (by simp [Checks, hphase]) (by simp [Checks]) rfl
  | checking request queued => exact sameChecks_of_eq hphase.symm rfl

theorem sameChecks_answer {r : Reactor} {ticket : Nat} {c : Cycle} {a : Answer}
    (hc : r.cycle? ticket = some c) (h : ¬ Settles ticket r (.answered ticket a)) :
    SameChecks r (r.answer c a).1 := by
  have hticket : c.ticket = ticket := by simpa using List.find?_some hc
  subst hticket
  rw [answer_eq]
  cases hturn : turn r.closed c.ticket c.awaiting a with
  | continues awaiting effect => exact sameChecks_advance r c.ticket awaiting
  | abandons failure => exact sameChecks_drop r c.ticket
  | settles effect =>
      have huntimed : Untimed r := by
        by_contra htimed
        exact h (.mk hc hturn htimed)
      obtain ⟨request, path, queued, fault, hphase, hopen, hfault⟩ := huntimed
      have hsettle : (r.settle c.ticket effect).1 = (r.drop c.ticket).count := by
        simp [settle, drop, hphase, hopen, debounceThen, hfault]
      obtain ⟨hchecks, hcycles⟩ := sameChecks_drop r c.ticket
      rw [hsettle]
      exact ⟨hchecks, hcycles⟩

/-- An input at which no check starts and no cycle settles changes nothing about the checks. -/
theorem sameChecks_step {r : Reactor} {i : Input} (hstarts : ¬ Starts (r.step i).2)
    (hsettles : ∀ ticket, ¬ Settles ticket r i) : SameChecks r (r.step i).1 := by
  cases i with
  | notify path => exact sameChecks_notify r path
  | trigger request => exact sameChecks_trigger hstarts
  | markFired timer => exact sameChecks_of_eq rfl rfl
  | expire timer isRoot => exact sameChecks_expire hstarts
  | answered ticket a =>
      simp only [step]
      cases hc : r.cycle? ticket with
      | none => exact sameChecks_of_eq rfl rfl
      | some c => exact sameChecks_answer hc (hsettles ticket)
  | close => exact sameChecks_close r

theorem cycles_of_settles {r : Reactor} (hsound : Sound r) {ticket : Nat} {i : Input}
    (h : Settles ticket r i) : ∃ c, r.cycles = [c] ∧ c.ticket = ticket := by
  cases h with
  | @mk c a effect hc hturn htimed =>
      obtain ⟨hcycles, hticket, -⟩ := hsound.of_cycle? hc
      exact ⟨c, hcycles, hticket⟩

theorem not_checks_of_settles {r : Reactor} (hsound : Sound r) {ticket : Nat} {i : Input}
    (h : Settles ticket r i) :
    (∀ request, ¬ Checks (r.step i).1 request) ∧ (r.step i).1.cycles = [] := by
  cases h with
  | @mk c a effect hc hturn htimed =>
      obtain ⟨hcycles, rfl, -⟩ := hsound.of_cycle? hc
      have hstep : (r.step (.answered c.ticket a)).1 = (r.settle c.ticket effect).1 := by
        simp [step, hc, answer_eq, hturn]
      have hdrop := drop_cycles hcycles
      rw [hstep]
      rcases settle_cases r c.ticket effect with
        ⟨request, path, waiting, hchecking, hopen, heq⟩ | ⟨-, heq⟩
      · rw [heq]
        rcases debounceThen_cases (r.drop c.ticket) (path :: waiting) effect with
          ⟨delay, -, hmoved⟩ | ⟨fault, hfault, -⟩
        · rw [hmoved]
          exact ⟨by simp [Checks, debounce], hdrop⟩
        · exact absurd ⟨request, path, waiting, fault, hchecking, hopen, hfault⟩ htimed
      · rw [heq]
        exact ⟨by simp [Checks], hdrop⟩

/-- What the history says of the unsettled checks, the state says. -/
structure Mirrors (r : Reactor) (unsettled : Nat → Request → Prop) : Prop where
  checks : ∀ request, Checks r request ↔ ∃ ticket, unsettled ticket request
  unique : ∀ {ticket ticket' request request'}, unsettled ticket request →
    unsettled ticket' request' → ticket = ticket' ∧ request = request'
  cycles : ∀ c ∈ r.cycles, unsettled c.ticket c.request

theorem Mirrors.congr {r : Reactor} {u u' : Nat → Request → Prop} (h : Mirrors r u)
    (hsame : ∀ ticket request, u' ticket request ↔ u ticket request) : Mirrors r u' := by
  obtain rfl : u' = u := funext fun ticket => funext fun request => propext (hsame ticket request)
  exact h

theorem Mirrors.step {r : Reactor} (hsound : Sound r) {u : Nat → Request → Prop}
    (h : Mirrors r u) (i : Input) :
    Mirrors (r.step i).1 fun ticket request =>
      (r.step i).2 = .run ticket request ∨ u ticket request ∧ ¬ Settles ticket r i := by
  by_cases hstarts : Starts (r.step i).2
  · obtain ⟨ticket, request, heffect⟩ := hstarts
    obtain ⟨-, hstart, hphase⟩ := starts_cases heffect
    have hidle : ∀ request, ¬ Checks r request := by
      rcases hphase with ⟨-, hphase⟩ |
        ⟨timer, pending, current, generation, isRoot, -, hphase, -⟩ <;>
        simp [Checks, hphase]
    have hnone : ∀ ticket request, ¬ u ticket request :=
      fun ticket request hu => hidle request ((h.checks request).mpr ⟨ticket, hu⟩)
    have hcycles : r.cycles = [] :=
      hsound.cycles_eq_nil fun request queued hphase => hidle request ⟨queued, hphase⟩
    rw [hstart]
    refine Mirrors.congr (u := fun ticket' request' => ticket' = r.started ∧ request' = request)
      ⟨?_, ?_, ?_⟩ ?_
    · intro request'
      simp [Checks, start, eq_comm]
    · rintro _ _ _ _ ⟨rfl, rfl⟩ ⟨rfl, rfl⟩
      exact ⟨rfl, rfl⟩
    · simp [start, hcycles]
    · intro ticket' request'
      simp [start, hnone, eq_comm]
  · have hnew : ∀ ticket request, ¬ (r.step i).2 = .run ticket request :=
      fun ticket request heffect => hstarts ⟨ticket, request, heffect⟩
    by_cases hsettles : ∃ ticket, Settles ticket r i
    · obtain ⟨ticket, hsettles⟩ := hsettles
      obtain ⟨hidle, hcycles⟩ := not_checks_of_settles hsound hsettles
      refine Mirrors.congr (u := fun _ _ => False)
        ⟨fun request => iff_of_false (hidle request) (by simp), by simp, by simp [hcycles]⟩ ?_
      intro ticket' request
      refine iff_of_false ?_ id
      rintro (heffect | ⟨hu, hopen⟩)
      · exact hnew ticket' request heffect
      -- The only check that was not settled is that of the cycle that settles.
      · obtain ⟨c, hone, rfl⟩ := cycles_of_settles hsound hsettles
        obtain ⟨rfl, -⟩ := h.unique hu (h.cycles c (by simp [hone]))
        exact hopen hsettles
    · rw [not_exists] at hsettles
      obtain ⟨hchecks, hcycles⟩ := sameChecks_step hstarts hsettles
      refine Mirrors.congr (u := u) ⟨fun request => (hchecks request).trans (h.checks request),
        h.unique, fun c' hc' => ?_⟩ fun ticket request => by simp [hnew, hsettles]
      obtain ⟨c, hc, hticket, hrequest⟩ := hcycles c' hc'
      rw [← hticket, ← hrequest]
      exact h.cycles c hc

theorem mirrors_run (millis : Number) (inputs : List Input) :
    Mirrors (run (fresh millis) inputs) (Unsettled (fresh millis) inputs) := by
  induction inputs using List.reverseRecOn with
  | nil =>
      have hnone := not_unsettled_nil (fresh millis)
      refine ⟨fun request => iff_of_false ?_ ?_, fun hu => absurd hu (hnone _ _), by simp [fresh]⟩
      · simp [Checks, fresh]
      · simpa using fun ticket => hnone ticket request
  | append_singleton inputs i ih =>
      rw [run_concat]
      exact (ih.step ((sound_fresh millis).run inputs) i).congr
        (unsettled_concat_iff (fresh millis) inputs i)

/-- At any moment of any run, the reactor is checking with a request exactly if a check with this
request is not settled, and no two checks are unsettled at once; so a check starts only when every
earlier one has settled. -/
theorem checks_iff_unsettled (millis : Number) (inputs : List Input) :
    (∀ request, Checks (run (fresh millis) inputs) request ↔
      ∃ ticket, Unsettled (fresh millis) inputs ticket request) ∧
    (∀ ticket ticket' request request', Unsettled (fresh millis) inputs ticket request →
      Unsettled (fresh millis) inputs ticket' request' → ticket = ticket' ∧ request = request') ∧
    ∀ i ticket request, ((run (fresh millis) inputs).step i).2 = .run ticket request →
      ∀ ticket' request', ¬ Unsettled (fresh millis) inputs ticket' request' := by
  have hmirrors := mirrors_run millis inputs
  refine ⟨hmirrors.checks, fun _ _ _ _ hu hu' => hmirrors.unique hu hu', ?_⟩
  intro i ticket request hstart ticket' request' hu
  obtain ⟨queued, hchecking⟩ := (hmirrors.checks request').mpr ⟨ticket', hu⟩
  obtain ⟨-, -, ⟨-, hphase⟩ | ⟨timer, pending, current, generation, isRoot, -, hphase, -⟩⟩ :=
    starts_cases hstart <;>
    simp [hphase] at hchecking

/-- A check, a file that changes meanwhile, and a request that is declined. -/
def busy : List Input := [.trigger .whole, .notify ['a'], .trigger (.single ['a'])]

/-- A check that crashes, and the report of its failure. -/
def finished : List Input :=
  [.trigger .whole, .answered 0 (.raised (.crash [])), .answered 0 .returned]

theorem checks_iff_unsettled_busy :
    Unsettled (fresh (.whole 50)) busy 0 .whole ∧
      (∀ ticket request, Unsettled (fresh (.whole 50)) busy ticket request →
        0 = ticket ∧ Request.whole = request) ∧
      ((run (fresh (.whole 50)) finished).step (.trigger (.single ['a']))).2 =
        .run 1 (.single ['a']) ∧
      ∀ ticket request, ¬ Unsettled (fresh (.whole 50)) finished ticket request := by
  obtain ⟨-, hunique, -⟩ := checks_iff_unsettled (.whole 50) busy
  obtain ⟨-, -, hsettled⟩ := checks_iff_unsettled (.whole 50) finished
  have hopen : Unsettled (fresh (.whole 50)) busy 0 .whole := by
    refine ⟨[], .trigger .whole, [.notify ['a'], .trigger (.single ['a'])], rfl, rfl, ?_⟩
    rintro ⟨before, i, after, heq, hsettles⟩
    have hmem : i ∈ [Input.notify ['a'], .trigger (.single ['a'])] := by simp [heq]
    cases hsettles
    simp at hmem
  exact ⟨hopen, fun ticket request => hunique 0 ticket .whole request hopen, rfl,
    hsettled (.trigger (.single ['a'])) 1 (.single ['a']) rfl⟩

end Recheck.Proofs.ReactorExclusion
