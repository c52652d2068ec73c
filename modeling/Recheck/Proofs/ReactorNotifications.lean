import Recheck.Proofs.ReactorRuns

/-!
No notification is lost and none counts twice: what the reactor holds is what it was notified of
since it last started a check, and a check that ends a burst is about all of it.
-/

namespace Recheck.Proofs.ReactorNotifications

open Recheck.Reactor
open Recheck.Proofs.ReactorRuns

/-- The files that wait for a check. -/
def held : Phase → List Text
  | .idle => []
  | .debouncing pending _ _ => pending
  | .checking _ queued => queued

def notified : Input → List Text
  | .notify path => [path]
  | _ => []

def named : Request → List Text
  | .single path => [path]
  | .changed paths => paths
  | .whole => []

/-- The notifications since the latest start of a check, once an input that notifies of `more`
had an effect. -/
def record (effect : Effect) (paths more : List Text) : List Text :=
  match effect with
  | .run _ _ => []
  | _ => paths ++ more

/-- The notifications since the latest start of a check, in their order, after some inputs;
`paths` are those before. -/
def notifiedSince (r : Reactor) (paths : List Text) : List Input → List Text
  | [] => paths
  | i :: inputs =>
    notifiedSince (r.step i).1 (record (r.step i).2 paths (notified i)) inputs

/-- A reactor that is open and has a timer for every burst. What waits waits once. -/
structure Ready (r : Reactor) : Prop where
  sound : Sound r
  isOpen : r.closed = false
  timed : ∃ delay, r.debounceMillis.thousandth = .ok delay
  once : ∃ paths : List Text, held r.phase = paths.eraseDups

theorem ready_fresh {millis : Number} {delay : Float} (h : millis.thousandth = .ok delay) :
    Ready (fresh millis) :=
  ⟨sound_fresh millis, rfl, ⟨delay, h⟩, [], rfl⟩

theorem record_of_not_starts {effect : Effect} (h : ¬ Starts effect) (paths more : List Text) :
    record effect paths more = paths ++ more := by
  cases effect with
  | run ticket request => exact absurd ⟨ticket, request, rfl⟩ h
  | done | declined | deliver | report | settled | escaped => rfl

theorem eraseDups_concat (paths : List Text) (path : Text) :
    (paths ++ [path]).eraseDups = appendUnique paths.eraseDups path := by
  rw [List.eraseDups_append, appendUnique]
  by_cases h : path ∈ paths <;> simp [List.removeAll, List.eraseDups_cons, h]

theorem mem_appendUnique (paths : List Text) (path : Text) : path ∈ appendUnique paths path := by
  unfold appendUnique
  split
  · assumption
  · exact List.mem_append_right paths (List.mem_singleton_self path)

theorem debounceThen_of_timed {r : Reactor}
    (h : ∃ delay, r.debounceMillis.thousandth = .ok delay) (pending : List Text) (effect : Effect) :
    held (r.debounceThen pending effect).1.phase = pending ∧
      (r.debounceThen pending effect).2 = effect := by
  obtain ⟨delay, hdelay⟩ := h
  rcases debounceThen_cases r pending effect with ⟨delay, -, heq⟩ | ⟨fault, hfault, -⟩
  · rw [heq]
    exact ⟨rfl, rfl⟩
  · simp [hdelay] at hfault

theorem Ready.notify {r : Reactor} (h : Ready r) (path : Text) :
    held (r.notify path).1.phase = appendUnique (held r.phase) path ∧
      (r.notify path).2 = .done := by
  simp only [Reactor.notify, h.isOpen, Bool.false_eq_true, if_false]
  cases r.phase with
  | idle => exact debounceThen_of_timed h.timed [path] .done
  | debouncing pending timer generation =>
      exact debounceThen_of_timed (r := r.cancel timer) h.timed (appendUnique pending path) .done
  | checking request queued => exact ⟨rfl, rfl⟩

theorem Ready.held_settle {r : Reactor} (h : Ready r) {c : Cycle} {queued : List Text}
    (hphase : r.phase = .checking c.request queued) (effect : Effect) :
    held (r.settle c.ticket effect).1.phase = queued := by
  rcases settle_cases r c.ticket effect with ⟨request, path, waiting, hwaiting, -, heq⟩ |
    ⟨hnil, heq⟩
  · obtain ⟨rfl, rfl⟩ : c.request = request ∧ queued = path :: waiting := by
      simpa [hphase] using hwaiting
    rw [heq, (debounceThen_of_timed (r := r.drop c.ticket) h.timed (path :: waiting) effect).1]
  · have hqueued : queued = [] := by simpa [h.isOpen] using hnil _ _ hphase
    rw [heq, hqueued, held]

theorem Ready.held_answer {r : Reactor} (h : Ready r) {ticket : Nat} {c : Cycle}
    (hc : r.cycle? ticket = some c) (a : Answer) :
    held (r.answer c a).1.phase = held r.phase := by
  obtain ⟨-, rfl, queued, hphase⟩ := h.sound.of_cycle? hc
  rw [answer_eq]
  cases turn r.closed c.ticket c.awaiting a with
  | continues awaiting effect => rfl
  | settles effect => rw [h.held_settle hphase, hphase, held]
  | abandons failure => rfl

/-- One input keeps the files that wait in step with the notifications. -/
theorem Ready.held_step {r : Reactor} (h : Ready r) {paths : List Text}
    (hheld : held r.phase = paths.eraseDups) {i : Input} (hi : i ≠ .close) :
    held (r.step i).1.phase = (record (r.step i).2 paths (notified i)).eraseDups := by
  cases i with
  | notify path =>
      obtain ⟨hnew, hdone⟩ := h.notify path
      simp only [step, hnew, hdone, record, notified, hheld, eraseDups_concat]
  | trigger request =>
      cases hphase : r.phase with
      | idle => simp [step, Reactor.trigger, h.isOpen, hphase, start, record, held]
      | debouncing pending timer generation =>
          simpa [record, step, Reactor.trigger, h.isOpen, hphase, notified] using hphase ▸ hheld
      | checking request' queued =>
          simpa [record, step, Reactor.trigger, h.isOpen, hphase, notified] using hphase ▸ hheld
  | markFired timer => simpa [record, step, notified, Reactor.markFired] using hheld
  | expire timer isRoot =>
      simp only [record, step, Reactor.expire, notified, List.append_nil]
      cases r.due? timer with
      | none => exact hheld
      | some pending =>
          cases isRoot with
          | ok isRoot => rfl
          | error failure => exact hheld
  | answered ticket a =>
      cases hc : r.cycle? ticket with
      | none => simpa [record, step, hc, notified] using hheld
      | some c =>
          have hanswer : r.step (.answered ticket a) = r.answer c a := by simp [step, hc]
          have hnone : notified (.answered ticket a) = [] := rfl
          rw [hanswer, record_of_not_starts (not_starts_answer r c a), hnone, List.append_nil,
            h.held_answer hc, hheld]
  | close => exact absurd rfl hi

theorem Ready.step {r : Reactor} (h : Ready r) {i : Input} (hi : i ≠ .close) :
    Ready (r.step i).1 := by
  obtain ⟨hclosed, hmillis⟩ := sameSetup_step r hi
  obtain ⟨paths, hheld⟩ := h.once
  exact ⟨h.sound.step i, hclosed.trans h.isOpen, hmillis ▸ h.timed, _, h.held_step hheld hi⟩

theorem Ready.run {r : Reactor} (h : Ready r) {inputs : List Input}
    (hinputs : Input.close ∉ inputs) : Ready (run r inputs) := by
  induction inputs generalizing r with
  | nil => exact h
  | cons i inputs ih =>
      simp only [List.mem_cons, not_or] at hinputs
      exact ih (h.step (Ne.symm hinputs.1)) hinputs.2

theorem named_of_starts {r : Reactor} {i : Input} {ticket : Nat} {request : Request}
    (h : (r.step i).2 = .run ticket request) :
    (i = .trigger request ∧ held r.phase = []) ∨
      request = .changed (held r.phase) ∨
      ∃ path, held r.phase = [path] ∧ request = .single path := by
  obtain ⟨-, -, ⟨rfl, hphase⟩ | ⟨timer, pending, current, generation, isRoot, rfl, hphase, rfl⟩⟩ :=
    starts_cases h
  · exact .inl ⟨rfl, by rw [hphase, held]⟩
  · right
    rw [hphase, held]
    unfold requestFor
    split
    · exact .inr ⟨_, rfl, rfl⟩
    · exact .inl rfl

theorem Ready.mem_held_step {r : Reactor} (h : Ready r) {i : Input} (hi : i ≠ .close)
    {path : Text} (hpath : path ∈ held r.phase) :
    path ∈ held (r.step i).1.phase ∨
      ∃ ticket request, (r.step i).2 = .run ticket request ∧ path ∈ named request := by
  by_cases hstarts : Starts (r.step i).2
  · obtain ⟨ticket, request, heffect⟩ := hstarts
    refine .inr ⟨ticket, request, heffect, ?_⟩
    rcases named_of_starts heffect with ⟨-, hnil⟩ | rfl | ⟨path', hone, rfl⟩
    · simp [hnil] at hpath
    · exact hpath
    · simpa [hone, named] using hpath
  · left
    obtain ⟨paths, hheld⟩ := h.once
    rw [hheld, List.mem_eraseDups] at hpath
    rw [h.held_step hheld hi, List.mem_eraseDups, record_of_not_starts hstarts]
    exact List.mem_append_left (notified i) hpath

theorem Ready.held_run {r : Reactor} (h : Ready r) {paths : List Text}
    (hheld : held r.phase = paths.eraseDups) {inputs : List Input}
    (hinputs : Input.close ∉ inputs) :
    held (ReactorRuns.run r inputs).phase = (notifiedSince r paths inputs).eraseDups := by
  induction inputs generalizing r paths with
  | nil => exact hheld
  | cons i inputs ih =>
      simp only [List.mem_cons, not_or] at hinputs
      have hi : i ≠ .close := Ne.symm hinputs.1
      exact ih (h.step hi) (h.held_step hheld hi) hinputs.2

theorem Ready.mem_held_run {r : Reactor} (h : Ready r) {path : Text}
    (hpath : path ∈ held r.phase) {inputs : List Input} (hinputs : Input.close ∉ inputs) :
    path ∈ held (ReactorRuns.run r inputs).phase ∨
      ∃ before i after ticket request, inputs = before ++ i :: after ∧
        ((ReactorRuns.run r before).step i).2 = .run ticket request ∧ path ∈ named request := by
  induction inputs generalizing r with
  | nil => exact .inl hpath
  | cons i inputs ih =>
      simp only [List.mem_cons, not_or] at hinputs
      have hi : i ≠ .close := Ne.symm hinputs.1
      rcases h.mem_held_step hi hpath with hstill | ⟨ticket, request, hstart⟩
      · rcases ih (h.step hi) hstill hinputs.2 with
          hend | ⟨before, j, after, ticket, request, rfl, hcheck⟩
        · exact .inl hend
        · exact .inr ⟨i :: before, j, after, ticket, request, rfl, hcheck⟩
      · exact .inr ⟨[], i, inputs, ticket, request, rfl, hstart⟩

/-- Where a timer can run for the debounce time, the reactor holds, until it is closed, exactly the
files of the notifications since it last started a check, each once and in their order. A check
that a timer starts is about exactly the files that are held then. So every notification is taken,
and leads to a check of its file unless the file is still held. -/
theorem held_eq_notified {millis : Number} {delay : Float} (hdelay : millis.thousandth = .ok delay)
    (inputs : List Input) (hinputs : Input.close ∉ inputs) :
    held (run (fresh millis) inputs).phase =
        (notifiedSince (fresh millis) [] inputs).eraseDups ∧
    (∀ before timer isRoot after ticket request,
      inputs = before ++ .expire timer isRoot :: after →
      ((run (fresh millis) before).step (.expire timer isRoot)).2 = .run ticket request →
        request = .changed (held (run (fresh millis) before).phase) ∨
        ∃ path, held (run (fresh millis) before).phase = [path] ∧ request = .single path) ∧
    ∀ before path after, inputs = before ++ .notify path :: after →
      ((run (fresh millis) before).step (.notify path)).2 = .done ∧
        (path ∈ held (run (fresh millis) inputs).phase ∨
          ∃ waiting i rest ticket request, after = waiting ++ i :: rest ∧
            ((run (fresh millis) (before ++ .notify path :: waiting)).step i).2 =
              .run ticket request ∧ path ∈ named request) := by
  have hready := ready_fresh hdelay
  refine ⟨hready.held_run rfl hinputs, ?_, ?_⟩
  · rintro before timer isRoot after ticket request - hstart
    rcases named_of_starts hstart with ⟨hi, -⟩ | hrequest
    · cases hi
    · exact hrequest
  · rintro before path after rfl
    simp only [List.mem_append, List.mem_cons, not_or] at hinputs
    obtain ⟨hbefore, -, hafter⟩ := hinputs
    have hthen := hready.run hbefore
    obtain ⟨hheld, hdone⟩ := hthen.notify path
    refine ⟨hdone, ?_⟩
    have hpath : path ∈ held ((run (fresh millis) before).step (.notify path)).1.phase := by
      rw [step, hheld]
      exact mem_appendUnique _ path
    rw [run_append]
    rcases (hthen.step (i := .notify path) (by simp)).mem_held_run hpath hafter with
      hend | ⟨waiting, i, rest, ticket, request, rfl, hcheck⟩
    · exact .inl hend
    · refine .inr ⟨waiting, i, rest, ticket, request, rfl, ?_⟩
      rwa [run_append]

/-- Two files change, one of them twice, and the timer of the burst runs out; another file
changes during the check, and a timer of the burst is called back late. -/
def burst : List Input :=
  [.notify ['a'], .notify ['b'], .notify ['a'], .markFired 2, .expire 2 (.ok false),
    .notify ['c'], .expire 0 (.ok true), .answered 0 (.result {})]

theorem held_eq_notified_burst :
    (∃ delay, (Number.whole 50).thousandth = .ok delay) ∧ Input.close ∉ burst ∧
      held (run (fresh (.whole 50)) burst).phase = [['c']] := by
  have hopen : Input.close ∉ burst := by simp [burst]
  obtain ⟨delay, hdelay⟩ : ∃ delay, (Number.whole 50).thousandth = .ok delay := ⟨_, rfl⟩
  exact ⟨⟨delay, hdelay⟩, hopen, (held_eq_notified hdelay burst hopen).1.trans (by decide +kernel)⟩

/-- A debounce time beyond the doubles. -/
def boundless : Number := .whole (Int.pow 10 400)

theorem thousandth_boundless : boundless.thousandth = .error .quotientBeyondDoubles := by
  have hinfinite : (Decimal.nearest (Int.pow 10 400) (-3)).isInf = true := by decide +kernel
  rw [boundless, Number.thousandth, Number.bounded, if_pos hinfinite]

/-- Where no timer can run for the debounce time, the notification of a file is not taken. -/
theorem held_ne_notified_untimed :
    ∃ fault, boundless.thousandth = .error fault ∧
      Input.close ∉ [Input.notify ['a']] ∧
      held (run (fresh boundless) [.notify ['a']]).phase ≠
        (notifiedSince (fresh boundless) [] [.notify ['a']]).eraseDups ∧
      ((fresh boundless).step (.notify ['a'])).2 = .escaped (.arithmetic fault) := by
  have hfault := thousandth_boundless
  refine ⟨_, hfault, by simp, ?_, ?_⟩
  · simp [fresh, step, Reactor.notify, debounceThen, hfault, held, notifiedSince, record, notified,
      count, List.eraseDups_cons]
  · simp [fresh, step, Reactor.notify, debounceThen, hfault]

end Recheck.Proofs.ReactorNotifications
