import Recheck.Proofs.ReactorNotifications

/-!
From a notification to the run of a check. A file that an open reactor was told of waits, or a
check of it is to be run, until the answer to such a run comes; nothing else takes it away.
-/

namespace Recheck.Proofs.PendingChecks

open Recheck.Reactor
open Recheck.Proofs.ReactorNotifications
open Recheck.Proofs.ReactorRuns

/-- A file waits, or a check of it was started whose run is still to come. The check is about
files of one kind only. -/
inductive Pending (kind : Text → Prop) (r : Reactor) (path : Text) : Prop
  | waits (hheld : path ∈ held r.phase)
  | starts {c : Cycle} (hc : c ∈ r.cycles) (hrunning : c.awaiting = .running)
      (hnamed : path ∈ named c.request) (hkind : ∀ other ∈ named c.request, kind other)

/-- The input answers the run of a check of a file and of others of its kind. -/
inductive Checks (kind : Text → Prop) (r : Reactor) (path : Text) : Input → Prop
  | mk {ticket : Nat} {c : Cycle} (a : Answer) (hc : r.cycle? ticket = some c)
      (hrunning : c.awaiting = .running) (hnamed : path ∈ named c.request)
      (hkind : ∀ other ∈ named c.request, kind other) :
      Checks kind r path (.answered ticket a)

theorem mem_of_mem_record {effect : Effect} {paths more : List Text} {path : Text}
    (h : path ∈ record effect paths more) : path ∈ paths ∨ path ∈ more := by
  cases effect with
  | run ticket request => cases h
  | done | declined | deliver | report | settled | escaped => exact List.mem_append.mp h

theorem mem_held_of_step {r : Reactor} (h : Ready r) {i : Input} (hi : i ≠ .close) {path : Text}
    (hpath : path ∈ held (r.step i).1.phase) : path ∈ held r.phase ∨ path ∈ notified i := by
  obtain ⟨paths, hheld⟩ := h.once
  rw [h.held_step hheld hi, List.mem_eraseDups] at hpath
  rw [hheld, List.mem_eraseDups]
  exact mem_of_mem_record hpath

theorem mem_held_notify {r : Reactor} (h : Ready r) (path : Text) :
    path ∈ held (r.notify path).1.phase := by
  rw [(h.notify path).1]
  exact mem_appendUnique _ path

theorem cycles_debounceThen (r : Reactor) (pending : List Text) (effect : Effect) :
    (r.debounceThen pending effect).1.cycles = r.cycles := by
  rcases debounceThen_cases r pending effect with ⟨delay, -, heq⟩ | ⟨fault, -, heq⟩ <;>
    rw [heq] <;> rfl

theorem cycles_notify (r : Reactor) (path : Text) : (r.notify path).1.cycles = r.cycles := by
  unfold notify
  split
  · rfl
  · split
    · exact cycles_debounceThen r [path] .done
    · exact cycles_debounceThen (r.cancel _) _ .done
    · rfl

theorem mem_cycles_step {r : Reactor} (hsound : Sound r) {c : Cycle} (hc : c ∈ r.cycles)
    {i : Input} (hi : i ≠ .close) :
    c ∈ (r.step i).1.cycles ∨ ∃ ticket a, i = .answered ticket a ∧ r.cycle? ticket = some c := by
  have hchecking : ∃ queued, r.phase = .checking c.request queued := by
    rcases hsound.cycles with hnil | ⟨c', queued, hcycles, hphase⟩
    · simp [hnil] at hc
    · obtain rfl : c = c' := by simpa [hcycles] using hc
      exact ⟨queued, hphase⟩
  obtain ⟨queued, hphase⟩ := hchecking
  cases i with
  | notify path => exact .inl (by rwa [step, cycles_notify])
  | trigger request => exact .inl (by simpa [step, trigger, hphase] using hc)
  | markFired timer => exact .inl hc
  | expire timer isRoot =>
      have hdue : r.due? timer = none := by
        simp [due?, hphase]
      exact .inl (by simpa [step, expire, hdue] using hc)
  | answered ticket a =>
      cases hcycle : r.cycle? ticket with
      | none => exact .inl (by simpa [step, hcycle] using hc)
      | some c' =>
          obtain ⟨hcycles, -, -⟩ := hsound.of_cycle? hcycle
          obtain rfl : c = c' := by simpa [hcycles] using hc
          exact .inr ⟨ticket, a, rfl, hcycle⟩
  | close => exact absurd rfl hi

theorem pending_of_starts {kind : Text → Prop} {r : Reactor}
    (hheld : ∀ other ∈ held r.phase, kind other) {path : Text} (hpath : path ∈ held r.phase)
    {i : Input} {ticket : Nat} {request : Request} (h : (r.step i).2 = .run ticket request)
    (hnamed : path ∈ named request) : Pending kind (r.step i).1 path := by
  obtain ⟨-, hstart, -⟩ := starts_cases h
  have hkind : ∀ other ∈ named request, kind other := by
    rcases named_of_starts h with ⟨-, hnil⟩ | rfl | ⟨only, hone, rfl⟩
    · simp [hnil] at hpath
    · exact hheld
    · simpa [hone, named] using hheld
  rw [hstart]
  exact .starts List.mem_cons_self rfl hnamed hkind

/-- Only the answer to the run of a check takes away a file that waits or is to be checked. -/
theorem Pending.step {kind : Text → Prop} {r : Reactor} (hready : Ready r)
    (hheld : ∀ other ∈ held r.phase, kind other) {path : Text} (h : Pending kind r path)
    {i : Input} (hi : i ≠ .close) : Pending kind (r.step i).1 path ∨ Checks kind r path i := by
  cases h with
  | waits hpath =>
      rcases hready.mem_held_step hi hpath with hstill | ⟨ticket, request, hstart, hnamed⟩
      · exact .inl (.waits hstill)
      · exact .inl (pending_of_starts hheld hpath hstart hnamed)
  | starts hc hrunning hnamed hkind =>
      rcases mem_cycles_step hready.sound hc hi with hstill | ⟨ticket, a, rfl, hcycle⟩
      · exact .inl (.starts hstill hrunning hnamed hkind)
      · exact .inr (.mk a hcycle hrunning hnamed hkind)

theorem not_pending_of_idle {kind : Text → Prop} {r : Reactor} (hsound : Sound r)
    (hidle : r.phase = .idle) (path : Text) : ¬ Pending kind r path := by
  rintro (hheld | ⟨hc, -, -, -⟩)
  · simp [hidle, held] at hheld
  · simp [hsound.cycles_eq_nil (by simp [hidle])] at hc

theorem ready_notifyAll {r : Reactor} (h : Ready r) (paths : List Text) :
    Ready (run r (paths.map .notify)) := by
  induction paths generalizing r with
  | nil => exact h
  | cons path paths ih => exact ih (h.step (by simp))

theorem mem_held_of_notifyAll {r : Reactor} (h : Ready r) {paths : List Text} {path : Text}
    (hpath : path ∈ held (run r (paths.map .notify)).phase) :
    path ∈ held r.phase ∨ path ∈ paths := by
  induction paths generalizing r with
  | nil => exact .inl hpath
  | cons first paths ih =>
      have hfirst : Input.notify first ≠ .close := by simp
      rcases ih (h.step hfirst) hpath with hheld | hmem
      · rcases mem_held_of_step h hfirst hheld with hold | hnew
        · exact .inl hold
        · exact .inr (List.mem_singleton.mp hnew ▸ List.mem_cons_self)
      · exact .inr (List.mem_cons_of_mem first hmem)

theorem pending_notifyAll {kind : Text → Prop} {r : Reactor} (hready : Ready r)
    (hheld : ∀ other ∈ held r.phase, kind other) {paths : List Text}
    (hpaths : ∀ other ∈ paths, kind other) {path : Text}
    (h : Pending kind r path ∨ path ∈ paths) : Pending kind (run r (paths.map .notify)) path := by
  induction paths generalizing r with
  | nil => exact h.resolve_right List.not_mem_nil
  | cons first paths ih =>
      obtain ⟨hfirst, hrest⟩ := List.forall_mem_cons.mp hpaths
      have hi : Input.notify first ≠ .close := by simp
      have hheld' : ∀ other ∈ held (r.step (.notify first)).1.phase, kind other := by
        intro other hother
        rcases mem_held_of_step hready hi hother with hold | hnew
        · exact hheld other hold
        · exact List.mem_singleton.mp hnew ▸ hfirst
      refine ih (hready.step hi) hheld' hrest ?_
      rcases h with hpending | hmem
      · rcases hpending.step hready hheld hi with hstill | hchecks
        · exact .inl hstill
        · cases hchecks
      · rcases List.mem_cons.mp hmem with rfl | hmem
        · exact .inl (.waits (mem_held_notify hready path))
        · exact .inr hmem

end Recheck.Proofs.PendingChecks
