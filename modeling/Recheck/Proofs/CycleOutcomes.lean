import Recheck.Proofs.ReactorRest

/-!
What becomes of each check. A cycle calls its collaborators one after the other, and each call
has an answer. Where failures are taken by whoever they are reported to, every cycle comes to one
of four ends, and all that one cycle does comes before all that the next one does.
-/

namespace Recheck.Proofs.CycleOutcomes

open Recheck.Reactor
open Recheck.Proofs.ReactorRuns
open Recheck.Proofs.ReactorRest

/-- What a cycle does, and what it meets with. -/
inductive Act
  | runs (request : Request)
  | emits (event : WatchEvent)
  | reports (failure : Failure)
  /-- A collaborator answers; the reactor is closed or is not. -/
  | meets (answer : Answer) (closed : Bool)

/-- An input, and what the clock reads when it comes. -/
structure Moment where
  input : Input
  clock : Number

def inputs (moments : List Moment) : List Input := moments.map (·.input)

/-- The call that an effect asks for, with the ticket of its cycle. An event has the time of the
clock; without a time there is no event. -/
def call? (clock : Number) : Effect → Option (Nat × Act)
  | .run ticket request => some (ticket, .runs request)
  | .deliver ticket report =>
    match clock.toMillis with
    | .ok timestamp => some (ticket, .emits { timestamp, report })
    | .error _ => none
  | .report ticket failure => some (ticket, .reports failure)
  | _ => none

/-- The answer that an input is to a cycle. -/
def answer? (r : Reactor) : Input → Option (Nat × Act)
  | .answered ticket a => (r.cycle? ticket).map fun _ => (ticket, .meets a r.closed)
  | _ => none

def acts (r : Reactor) (m : Moment) : List (Nat × Act) :=
  (answer? r m.input).toList ++ (call? m.clock (r.step m.input).2).toList

/-- The acts of all cycles in a run, in their order. -/
def chronicle (r : Reactor) : List Moment → List (Nat × Act)
  | [] => []
  | m :: moments => acts r m ++ chronicle (r.step m.input).1 moments

def story (ticket : Nat) (entries : List (Nat × Act)) : List Act :=
  (entries.filter (·.1 = ticket)).map (·.2)

inductive Over (request : Request) : List Act → Prop
  /-- The check has a result, but the reactor was closed meanwhile. -/
  | silent (report : Report) : Over request [.runs request, .meets (.result report) true]
  | emitted (event : WatchEvent) (closed : Bool) :
      Over request [.runs request, .meets (.result event.report) false, .emits event,
        .meets .returned closed]
  /-- The result goes out as an event that is not taken well. -/
  | refused (event : WatchEvent) (failure : Failure) (closed closed' : Bool) :
      Over request [.runs request, .meets (.result event.report) false, .emits event,
        .meets (.raised failure) closed, .reports failure, .meets .returned closed']
  | failed (failure : Failure) (closed closed' : Bool) :
      Over request [.runs request, .meets (.raised failure) closed, .reports failure,
        .meets .returned closed']

/-- The story of a cycle that waits for an answer. -/
inductive UnderWay (request : Request) : Awaiting → List Act → Prop
  | running : UnderWay request .running [.runs request]
  | delivering (event : WatchEvent) :
      UnderWay request .delivering [.runs request, .meets (.result event.report) false,
        .emits event]
  | reportingDelivery (event : WatchEvent) (failure : Failure) (closed : Bool) :
      UnderWay request .reportingDelivery [.runs request, .meets (.result event.report) false,
        .emits event, .meets (.raised failure) closed, .reports failure]
  | reportingRun (failure : Failure) (closed : Bool) :
      UnderWay request .reportingRun [.runs request, .meets (.raised failure) closed,
        .reports failure]

/-- The answers to a cycle. Checks give results, the other collaborators return, and only reports
do not fail. -/
inductive Fits : Awaiting → Answer → Prop
  | result (report : Report) : Fits .running (.result report)
  | returned {awaiting : Awaiting} (h : awaiting ≠ .running) : Fits awaiting .returned
  | raised {awaiting : Awaiting} {failure : Failure}
      (h : awaiting = .running ∨ awaiting = .delivering) (hfailure : failure.isHandled = true) :
      Fits awaiting (.raised failure)

/-- A cycle gets an answer that is none to its question, or the failure of a report, or an
interruption. -/
inductive Misfits (r : Reactor) : Input → Prop
  | mk {ticket : Nat} {c : Cycle} {a : Answer} (hc : r.cycle? ticket = some c)
      (h : ¬ Fits c.awaiting a) : Misfits r (.answered ticket a)

theorem not_misfits {r : Reactor} {ticket : Nat} {c : Cycle} {a : Answer}
    (hc : r.cycle? ticket = some c) (h : Fits c.awaiting a) : ¬ Misfits r (.answered ticket a) := by
  rintro ⟨hc', hmisfit⟩
  obtain rfl := Option.some.inj (hc.symm.trans hc')
  exact hmisfit h

def Finite (clock : Number) : Prop := ∃ millis, clock.toMillis = .ok millis

theorem call?_deliver {clock : Number} (h : Finite clock) (ticket : Nat) (report : Report) :
    ∃ timestamp,
      call? clock (.deliver ticket report) = some (ticket, .emits { timestamp, report }) := by
  obtain ⟨millis, hmillis⟩ := h
  exact ⟨millis, by simp [call?, hmillis]⟩

theorem UnderWay.turn {request : Request} {w : Awaiting} {entries : List Act}
    (h : UnderWay request w entries) {a : Answer} (hfits : Fits w a) {clock : Number}
    (hclock : Finite clock) (closed : Bool) (ticket : Nat) :
    (∃ w' effect act, turn closed ticket w a = .continues w' effect ∧
      call? clock effect = some (ticket, act) ∧
      UnderWay request w' (entries ++ [.meets a closed, act])) ∨
    (turn closed ticket w a = .settles (.settled ticket) ∧
      Over request (entries ++ [.meets a closed])) := by
  cases hfits with
  | result report =>
      cases h
      cases closed with
      | true => exact .inr ⟨rfl, .silent report⟩
      | false =>
          obtain ⟨timestamp, hcall⟩ := call?_deliver hclock ticket report
          exact .inl ⟨_, _, _, rfl, hcall, .delivering { timestamp, report }⟩
  | returned hw =>
      right
      cases h with
      | running => exact absurd rfl hw
      | delivering event => exact ⟨rfl, .emitted event closed⟩
      | reportingDelivery event failure closed' =>
          exact ⟨rfl, .refused event failure closed' closed⟩
      | reportingRun failure closed' => exact ⟨rfl, .failed failure closed' closed⟩
  | @raised _ failure hw hfailure =>
      left
      cases h with
      | running =>
          exact ⟨_, _, _, if_pos hfailure, rfl, .reportingRun failure closed⟩
      | delivering event =>
          exact ⟨_, _, _, if_pos hfailure, rfl, .reportingDelivery event failure closed⟩
      | reportingDelivery event failure' closed' => simp at hw
      | reportingRun failure' closed' => simp at hw

theorem run_inputs_concat (r : Reactor) (moments : List Moment) (m : Moment) :
    run r (inputs (moments ++ [m])) = ((run r (inputs moments)).step m.input).1 := by
  rw [inputs, List.map_append, List.map_singleton, run_concat]
  rfl

theorem chronicle_concat (r : Reactor) (moments : List Moment) (m : Moment) :
    chronicle r (moments ++ [m]) = chronicle r moments ++ acts (run r (inputs moments)) m := by
  induction moments generalizing r with
  | nil => exact List.append_nil _
  | cons m' moments ih =>
      rw [List.cons_append, chronicle, ih, chronicle, List.append_assoc]
      rfl

theorem story_append (ticket : Nat) (entries more : List (Nat × Act)) :
    story ticket (entries ++ more) = story ticket entries ++ story ticket more := by
  simp [story]

theorem story_own {ticket : Nat} {more : List (Nat × Act)} (h : ∀ e ∈ more, e.1 = ticket) :
    story ticket more = more.map (·.2) := by
  rw [story, List.filter_eq_self.mpr (by simpa using h)]

theorem story_other {ticket ticket' : Nat} {more : List (Nat × Act)}
    (h : ∀ e ∈ more, e.1 = ticket') (hne : ticket' ≠ ticket) : story ticket more = [] := by
  rw [story, List.filter_eq_nil_iff.mpr, List.map_nil]
  intro e he
  simp [h e he, hne]

/-- Between a state and what comes of it no cycle starts, none ends, and nobody is called. -/
structure Uneventful (clock : Number) (r : Reactor) (after : Reactor × Effect) : Prop where
  started : after.1.started = r.started
  cycles : after.1.cycles = r.cycles
  silent : call? clock after.2 = none

theorem uneventful_refl {clock : Number} {effect : Effect} (h : call? clock effect = none)
    (r : Reactor) : Uneventful clock r (r, effect) := ⟨rfl, rfl, h⟩

theorem uneventful_debounceThen {clock : Number} {effect : Effect} (h : call? clock effect = none)
    (r : Reactor) (pending : List Text) : Uneventful clock r (r.debounceThen pending effect) := by
  rcases debounceThen_cases r pending effect with ⟨delay, -, heq⟩ | ⟨fault, -, heq⟩
  · rw [heq]
    exact ⟨rfl, rfl, h⟩
  · rw [heq]
    exact ⟨rfl, rfl, rfl⟩

theorem uneventful_settle (clock : Number) (r : Reactor) (ticket : Nat) :
    Uneventful clock (r.drop ticket) (r.settle ticket (.settled ticket)) := by
  rcases settle_cases r ticket (.settled ticket) with ⟨request, path, queued, -, -, heq⟩ | ⟨-, heq⟩
  · -- The files that wait may start a burst, but no check.
    rw [heq]
    exact uneventful_debounceThen rfl (r.drop ticket) (path :: queued)
  · rw [heq]
    exact ⟨rfl, rfl, rfl⟩

theorem uneventful_notify (clock : Number) (r : Reactor) (path : Text) :
    Uneventful clock r (r.notify path) := by
  unfold Reactor.notify
  split
  · exact uneventful_refl rfl r
  · split
    · exact uneventful_debounceThen rfl r _
    · have hsilent : call? clock .done = none := rfl
      obtain ⟨hstarted, hcycles, hcall⟩ := uneventful_debounceThen hsilent (r.cancel _) _
      exact ⟨hstarted, hcycles, hcall⟩
    · exact ⟨rfl, rfl, rfl⟩

theorem uneventful_step {r : Reactor} {i : Input} (hstarts : ¬ Starts (r.step i).2)
    (hanswer : answer? r i = none) (clock : Number) : Uneventful clock r (r.step i) := by
  cases i with
  | notify path => exact uneventful_notify clock r path
  | trigger request =>
      simp only [step, trigger] at hstarts ⊢
      cases hclosed : r.closed with
      | true => exact uneventful_refl rfl r
      | false =>
          cases hphase : r.phase with
          | idle => exact absurd ⟨r.started, request, by simp [hclosed, hphase, start]⟩ hstarts
          | debouncing pending timer => exact uneventful_refl rfl r
          | checking request' queued => exact uneventful_refl rfl r
  | markFired timer => exact ⟨rfl, rfl, rfl⟩
  | expire timer isRoot =>
      simp only [step, expire] at hstarts ⊢
      cases hdue : r.due? timer with
      | none => exact uneventful_refl rfl r
      | some pending =>
          cases isRoot with
          | ok isRoot =>
              exact absurd ⟨r.started, requestFor pending isRoot, by simp [hdue, start]⟩ hstarts
          | error failure => exact uneventful_refl rfl r
  | answered ticket a =>
      simp only [answer?, Option.map_eq_none_iff] at hanswer
      simp only [step, hanswer]
      exact uneventful_refl rfl r
  | close =>
      simp only [step, close]
      split <;> exact ⟨rfl, rfl, rfl⟩

/-- What the acts so far say of the cycles. They stand in the order in which the cycles started,
only the last cycle can be under way, and every other one has come to its end. -/
structure Tells (r : Reactor) (entries : List (Nat × Act)) : Prop where
  ordered : entries.Pairwise fun a b => a.1 ≤ b.1
  started : ∀ e ∈ entries, e.1 < r.started
  last : ∀ c ∈ r.cycles, c.ticket + 1 = r.started
  stories : ∀ ticket < r.started,
    (r.cycle? ticket = none ∧ ∃ request, Over request (story ticket entries)) ∨
    ∃ c, r.cycle? ticket = some c ∧ UnderWay c.request c.awaiting (story ticket entries)

theorem tells_fresh (millis : Number) : Tells (fresh millis) [] :=
  ⟨.nil, by simp, by simp [fresh], by simp [fresh]⟩

theorem cycle?_of_other {r : Reactor} {ticket ticket' : Nat}
    (h : ∀ c ∈ r.cycles, c.ticket = ticket') (hne : ticket' ≠ ticket) : r.cycle? ticket = none := by
  rw [cycle?, List.find?_eq_none]
  intro c hc
  simp [h c hc, hne]

theorem Tells.uneventful {r : Reactor} {entries : List (Nat × Act)} (h : Tells r entries)
    {clock : Number} {after : Reactor × Effect} (hsame : Uneventful clock r after) :
    Tells after.1 entries := by
  obtain ⟨hstarted, hcycles, -⟩ := hsame
  have hcycle : ∀ ticket, after.1.cycle? ticket = r.cycle? ticket := by
    intro ticket
    rw [cycle?, cycle?, hcycles]
  refine ⟨h.ordered, by rw [hstarted]; exact h.started, ?_, ?_⟩
  · rw [hstarted, hcycles]
    exact h.last
  · simp only [hstarted, hcycle]
    exact h.stories

/-- The story of the last cycle goes on, and all others are over. -/
theorem Tells.extend {r r' : Reactor} {entries more : List (Nat × Act)} {ticket : Nat}
    (h : Tells r entries) (hlast : r'.started = ticket + 1) (hstarted : r.started ≤ ticket + 1)
    (hmore : ∀ e ∈ more, e.1 = ticket) (hothers : ∀ c ∈ r.cycles, c.ticket = ticket)
    (hcycles : ∀ c ∈ r'.cycles, c.ticket = ticket) (hearlier : ∀ t < ticket, t < r.started)
    (hstory :
      (r'.cycle? ticket = none ∧
        ∃ request, Over request (story ticket entries ++ more.map (·.2))) ∨
      ∃ c, r'.cycle? ticket = some c ∧
        UnderWay c.request c.awaiting (story ticket entries ++ more.map (·.2))) :
    Tells r' (entries ++ more) := by
  have hle : ∀ e ∈ entries, e.1 ≤ ticket := fun e he =>
    Nat.lt_succ_iff.mp (Nat.lt_of_lt_of_le (h.started e he) hstarted)
  refine ⟨List.pairwise_append.mpr ⟨h.ordered, ?_, ?_⟩, ?_, ?_, ?_⟩
  · exact List.pairwise_of_forall_mem_list fun e he e' he' => by simp [hmore e he, hmore e' he']
  · intro e he e' he'
    simpa [hmore e' he'] using hle e he
  · intro e he
    rw [hlast, Nat.lt_succ_iff]
    rcases List.mem_append.mp he with he | he
    · exact hle e he
    · exact Nat.le_of_eq (hmore e he)
  · intro c hc
    rw [hlast, hcycles c hc]
  · intro t ht
    rw [story_append]
    by_cases heq : ticket = t
    · subst heq
      rw [story_own hmore]
      exact hstory
    · have hlt : t < ticket := by omega
      left
      rw [story_other hmore heq, List.append_nil]
      refine ⟨cycle?_of_other hcycles heq, ?_⟩
      rcases h.stories t (hearlier t hlt) with ⟨-, hover⟩ | ⟨c, hc, -⟩
      · exact hover
      · rw [cycle?_of_other hothers heq] at hc
        cases hc

theorem Tells.start {r : Reactor} {entries : List (Nat × Act)} (h : Tells r entries)
    (hnone : r.cycles = []) (request : Request) :
    Tells (r.start request).1 (entries ++ [(r.started, .runs request)]) := by
  have hcycles : (r.start request).1.cycles = [⟨r.started, request, .running⟩] := by
    simp [Reactor.start, hnone]
  have hnew : story r.started entries = [] := by
    rw [story, List.filter_eq_nil_iff.mpr, List.map_nil]
    intro e he
    simpa using Nat.ne_of_lt (h.started e he)
  refine h.extend rfl (Nat.le_succ _) (by simp) (by simp [hnone]) (by simp [hcycles])
    (fun t ht => ht) (.inr ⟨⟨r.started, request, .running⟩, by simp [cycle?, hcycles], ?_⟩)
  rw [hnew]
  exact .running

theorem Tells.answer {r : Reactor} {entries : List (Nat × Act)} (h : Tells r entries)
    (hsound : Sound r) {ticket : Nat} {c : Cycle} (hc : r.cycle? ticket = some c) {a : Answer}
    (hfits : Fits c.awaiting a) {clock : Number} (hclock : Finite clock) :
    Tells (r.answer c a).1
      (entries ++ ((ticket, .meets a r.closed) :: (call? clock (r.answer c a).2).toList)) := by
  obtain ⟨hcycles, rfl, -⟩ := hsound.of_cycle? hc
  have hlast : c.ticket + 1 = r.started := h.last c (by simp [hcycles])
  have hle : r.started ≤ c.ticket + 1 := Nat.le_of_eq hlast.symm
  have hown : ∀ c' ∈ r.cycles, c'.ticket = c.ticket := by simp [hcycles]
  have hunder : UnderWay c.request c.awaiting (story c.ticket entries) := by
    rcases h.stories c.ticket (by omega) with ⟨hnone, -⟩ | ⟨c', hc', hunder⟩
    · rw [hc] at hnone
      cases hnone
    · obtain rfl := Option.some.inj (hc.symm.trans hc')
      exact hunder
  rw [answer_eq]
  rcases hunder.turn hfits hclock r.closed c.ticket with
    ⟨awaiting, effect, act, hturn, hcall, hnext⟩ | ⟨hturn, hover⟩
  · rw [hturn]
    have hadvanced : (r.advance c.ticket awaiting).cycles = [{ c with awaiting }] := by
      simp [advance, hcycles]
    refine h.extend hlast.symm hle (by simp [hcall]) hown (by simp [hadvanced])
      (fun t ht => by omega) (.inr ⟨{ c with awaiting }, by simp [cycle?, hadvanced], ?_⟩)
    simpa [hcall] using hnext
  · rw [hturn]
    obtain ⟨hstarted, hsame, hsilent⟩ := uneventful_settle clock r c.ticket
    rw [drop_cycles hcycles] at hsame
    refine h.extend (hstarted.trans hlast.symm) hle (by simp [hsilent]) hown (by simp [hsame])
      (fun t ht => by omega) (.inl ⟨by simp [cycle?, hsame], c.request, ?_⟩)
    simpa [hsilent] using hover

theorem Tells.step {r : Reactor} {entries : List (Nat × Act)} (h : Tells r entries)
    (hsound : Sound r) {m : Moment} (hfits : ¬ Misfits r m.input) (hclock : Finite m.clock) :
    Tells (r.step m.input).1 (entries ++ acts r m) := by
  unfold acts
  by_cases hstarts : Starts (r.step m.input).2
  · obtain ⟨ticket, request, heffect⟩ := hstarts
    obtain ⟨-, hstart, hcause⟩ := starts_cases heffect
    have hnone : r.cycles = [] := by
      refine hsound.cycles_eq_nil fun request' queued hphase => ?_
      rcases hcause with ⟨-, hidle⟩ | ⟨timer, pending, current, generation, isRoot, -, hburst, -⟩
      · simp [hphase] at hidle
      · simp [hphase] at hburst
    have hanswer : answer? r m.input = none := by
      rcases hcause with ⟨hinput, -⟩ | ⟨timer, pending, current, generation, isRoot, hinput, -⟩ <;>
        rw [hinput] <;> rfl
    rw [hanswer, hstart]
    exact h.start hnone request
  · cases hanswer : answer? r m.input with
    | none =>
        have hsame := uneventful_step hstarts hanswer m.clock
        rw [hsame.silent]
        simpa using h.uneventful hsame
    | some entry =>
        obtain ⟨input, clock⟩ := m
        cases input with
        | answered ticket a =>
            obtain ⟨c, hc, rfl⟩ := Option.map_eq_some_iff.mp hanswer
            have hfit : Fits c.awaiting a := by
              by_contra hmisfit
              exact hfits (.mk hc hmisfit)
            simp only [Reactor.step, hc]
            exact h.answer hsound hc hfit hclock
        | notify | trigger | markFired | expire | close => cases hanswer

theorem tells_run (millis : Number) {moments : List Moment}
    (hfits : ¬ Happens (fresh millis) (inputs moments) Misfits)
    (hclock : ∀ m ∈ moments, Finite m.clock) :
    Tells (run (fresh millis) (inputs moments)) (chronicle (fresh millis) moments) := by
  induction moments using List.reverseRecOn with
  | nil => exact tells_fresh millis
  | append_singleton moments m ih =>
      rw [inputs, List.map_append, List.map_singleton, happens_concat_iff, not_or] at hfits
      rw [run_inputs_concat, chronicle_concat]
      exact (ih hfits.1 fun m' hm' => hclock m' (List.mem_append_left _ hm')).step
        ((sound_fresh millis).run _) hfits.2 (hclock m (by simp))

/-- A check during which a file changes, and an event that is not taken; then a check of that file,
during which the reactor is closed. -/
def eventful : List Moment :=
  [⟨.trigger .whole, .whole 1⟩, ⟨.notify ['a'], .whole 2⟩, ⟨.answered 0 (.result {}), .whole 3⟩,
    ⟨.answered 0 (.raised (.crash [])), .whole 4⟩, ⟨.answered 0 .returned, .whole 5⟩,
    ⟨.expire 0 (.ok true), .whole 6⟩, ⟨.close, .whole 7⟩, ⟨.answered 1 (.result {}), .whole 8⟩]

end Recheck.Proofs.CycleOutcomes
