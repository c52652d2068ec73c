import Recheck.Proofs.Queries

/-!
Where the texts of snapshots come from. A text that a session knows after it was asked for
something it knew before, or the disk has it now; and what the disk says of a source file whose
snapshot is up to date, the snapshot says too. Nothing here depends on whether snapshots are kept
or read again.
-/

namespace Recheck.Proofs.Readings

open Recheck.Proofs.Activities
open Recheck.Proofs.Programs
open Recheck.Proofs.Queries
open Recheck.Proofs.Snapshots

variable {σ : Type}

/-- Every text of the one store stands in the other one or on the disk. -/
def Drawn (disk : Disk) (store store' : SnapshotStore) : Prop :=
  ∀ path text, known store' path = some text →
    known store path = some text ∨ disk.text? path = some text

theorem Drawn.refl (disk : Disk) (store : SnapshotStore) : Drawn disk store store :=
  fun _ _ => .inl

theorem Drawn.trans {disk : Disk} {store store' store'' : SnapshotStore}
    (h : Drawn disk store store') (h' : Drawn disk store' store'') : Drawn disk store store'' := by
  intro path text htext
  rcases h' path text htext with hknown | hdisk
  · exact h path text hknown
  · exact .inr hdisk

theorem known_eq_some {store : SnapshotStore} {path text : Text} :
    known store path = some text ↔ ∃ s, store.get? path = some s ∧ s.content = text := by
  simp [known]

theorem known_of_get? {store store' : SnapshotStore} {path : Text}
    (h : store'.get? path = store.get? path) : known store' path = known store path := by
  rw [known, known, h]

theorem known_first (disk : Disk) (path : Text) :
    (first disk path).map (·.content) = disk.text? path := by
  simp [first, Function.comp_def]

theorem known_of_filled {disk : Disk} {store store' : SnapshotStore} {path : Text} {read : Prop}
    [Decidable read]
    (h : store'.get? path = (store.get? path).or (if read then first disk path else none)) :
    known store' path = (known store path).or (if read then disk.text? path else none) := by
  rw [known, h, known]
  cases store.get? path with
  | some snapshot => rfl
  | none =>
      split
      · exact known_first disk path
      · rfl

theorem drawn_of_filled {disk : Disk} {store store' : SnapshotStore} {read : Text → Prop}
    [DecidablePred read]
    (h : ∀ q, store'.get? q = (store.get? q).or (if read q then first disk q else none)) :
    Drawn disk store store' := by
  intro path text htext
  rw [known_of_filled (h path)] at htext
  cases hknown : known store path with
  | some text' => exact .inl (by simpa [hknown] using htext)
  | none =>
      rw [hknown, Option.none_or] at htext
      split at htext
      · exact .inr htext
      · cases htext

theorem drawn_refresh (disk : Disk) (path : Text) (force : Bool) (s : Session σ) :
    Drawn disk s.store (s.refresh disk path force).store := by
  intro q text htext
  by_cases hq : q = path
  · subst hq
    cases hdisk : disk.text? q with
    | some content =>
        rw [known_refresh hdisk] at htext
        exact .inr htext
    | none =>
        simp only [Session.refresh, hdisk, log_store] at htext
        exact .inl htext
  · rw [known_of_get? (get?_refresh_of_ne hq disk force s)] at htext
    exact .inl htext

theorem drawn_ensureRead (disk : Disk) (path : Text) (s : Session σ) :
    Drawn disk s.store (s.ensureRead disk path).store := by
  unfold Session.ensureRead
  split
  · exact .refl disk s.store
  · exact drawn_refresh disk path false s

theorem drawn_readAll (disk : Disk) (again : Bool) (paths : List Text) (s : Session σ) :
    Drawn disk s.store (s.readAll disk again paths).store := by
  induction paths generalizing s with
  | nil => exact .refl disk s.store
  | cons path paths ih =>
      refine Drawn.trans ?_ (ih _)
      dsimp only
      split
      · exact drawn_refresh disk path true s
      · exact drawn_ensureRead disk path s

theorem drawn_prune (disk : Disk) (roots : List Text) (s : Session σ) :
    Drawn disk s.store (s.prune disk roots).store := by
  intro path text htext
  left
  obtain ⟨snapshot, hget, hcontent⟩ := known_eq_some.mp htext
  rw [get?_session_prune] at hget
  split at hget
  · exact known_eq_some.mpr ⟨snapshot, hget, hcontent⟩
  · cases hget

theorem drawn_of_creates {p : Project σ} {disk : Disk} {s s' : Session σ}
    {answer : Except Failure (Program × List Source)} (h : Creates p disk s (answer, s')) :
    Drawn disk s.store s'.store := by
  cases h with
  | unfound hkept hfound =>
      rw [hkept.1]
      exact .refl disk s.store
  | built hroots hfound hget hsources hbuild => exact drawn_of_filled hget

theorem drawn_refreshAll (disk : Disk) (paths : List Text) (s : Session σ) :
    Drawn disk s.store (refreshAll disk paths s).store := by
  induction paths generalizing s with
  | nil => exact .refl disk s.store
  | cons path paths ih => exact (drawn_refresh disk path false s).trans (ih _)

theorem drawn_program (p : Project σ) (disk : Disk) (s : Session σ) :
    Drawn disk s.store (outcome (p.program disk) s).2.store := by
  have hyields := program_yields p disk s
  have hmade : ∀ {roots : List Text} {w : σ} {read pruned s' : Session σ}
      {answer : Except Failure (Program × List Source)},
      read = { s with world := w }.readAll disk p.noCache roots →
      Kept (read.prune disk roots) pruned → Creates p disk pruned (answer, s') →
      Drawn disk s.store s'.store := by
    rintro roots w read pruned s' answer rfl hpruned hcreates
    refine (drawn_readAll disk p.noCache roots { s with world := w }).trans ?_
    refine (drawn_prune disk roots _).trans ?_
    rw [← hpruned.1]
    exact drawn_of_creates hcreates
  generalize outcome (p.program disk) s = result at hyields
  cases hyields with
  | rootless hkept hroots =>
      rw [hkept.1]
      exact .refl disk s.store
  | @reused roots w b s' hroots hread hstored hversions =>
      subst hread
      exact drawn_readAll disk p.noCache roots { s with world := w }
  | failed hroots hread hstale hpruned hcreates hanswer => exact hmade hread hpruned hcreates
  | built hroots hread hstale hpruned hcreates hanswer hversions hnumber hstore hbuild =>
      rw [hstore]
      exact hmade hread hpruned hcreates

theorem store_of_asked {p : Project σ} {disk : Disk} {request : Request} {s s₁ : Session σ}
    (h : asked p disk request s = some s₁) :
    (outcome (p.run disk request) s).2.store = (outcome (p.program disk) s₁).2.store := by
  obtain ⟨rest, hrun, hanswers⟩ := run_of_asked h
  rw [hrun, outcome_bind]
  rcases outcome (p.program disk) s₁ with ⟨failure | b, s'⟩
  · rfl
  · exact (hanswers.keeps b s').1

theorem drawn_run (p : Project σ) (disk : Disk) (request : Request) (s : Session σ) :
    Drawn disk s.store (outcome (p.run disk request) s).2.store := by
  cases h : asked p disk request s with
  | none =>
      rw [(run_of_not_asked h).1.1]
      exact .refl disk s.store
  | some s₁ =>
      obtain ⟨paths, -, rfl⟩ := asked_eq h
      rw [store_of_asked h]
      exact (drawn_refreshAll disk paths { s with world := (p.tools.tick s.world).2 }).trans
        (drawn_program p disk _)

theorem known_refresh_of_known {disk : Disk} {q content : Text}
    (hdisk : disk.text? q = some content)
    {s : Session σ} (h : known s.store q = some content) (path : Text) (force : Bool) :
    known (s.refresh disk path force).store q = some content := by
  by_cases hq : q = path
  · exact hq ▸ known_refresh hdisk force s
  · rw [known_of_get? (get?_refresh_of_ne hq disk force s), h]

theorem known_readAll_of_known {disk : Disk} {q content : Text}
    (hdisk : disk.text? q = some content)
    (again : Bool) (paths : List Text) {s : Session σ} (h : known s.store q = some content) :
    known (s.readAll disk again paths).store q = some content := by
  induction paths generalizing s with
  | nil => exact h
  | cons path paths ih =>
      refine ih ?_
      split
      · exact known_refresh_of_known hdisk h path true
      · rw [known_of_filled (get?_ensureRead disk path s q), h, Option.some_or]

theorem known_readAll_again {disk : Disk} {q content : Text} (hdisk : disk.text? q = some content)
    {paths : List Text} (hq : q ∈ paths) (s : Session σ) :
    known (s.readAll disk true paths).store q = some content := by
  induction paths generalizing s with
  | nil => cases hq
  | cons path paths ih =>
      by_cases hpath : q = path
      · subst hpath
        exact known_readAll_of_known hdisk true paths (known_refresh hdisk true s)
      · exact ih (List.mem_of_ne_of_mem hpath hq) _

/-- The text that a session knows of a source file once it has its program. -/
def settled (noCache : Bool) (before : Option Text) (content : Text) : Text :=
  if noCache then content else before.getD content

theorem known_readAll {disk : Disk} {q content : Text} (hdisk : disk.text? q = some content)
    (again : Bool) {paths : List Text} (hq : q ∈ paths) (s : Session σ) :
    known (s.readAll disk again paths).store q =
      some (settled again (known s.store q) content) := by
  cases again with
  | true => exact known_readAll_again hdisk hq s
  | false =>
      rw [known_of_filled (get?_readAll disk paths s q), if_pos hq, hdisk]
      cases known s.store q <;> rfl

theorem known_program_root {p : Project σ} {disk : Disk} {s s' : Session σ} {b : Build}
    {roots : List Text} {q content : Text} (hprogram : outcome (p.program disk) s = (.ok b, s'))
    (hroots : rootsAt p disk s.world = .ok roots) (hq : q ∈ roots)
    (hdisk : disk.text? q = some content) :
    known s'.store q = some (settled p.noCache (known s.store q) content) := by
  have hyields := program_yields p disk s
  rw [hprogram] at hyields
  cases hyields with
  | @reused roots' w b s' hroots' hread hstored hversions =>
      obtain rfl := Except.ok.inj (hroots'.symm.trans hroots)
      rw [hread]
      exact known_readAll hdisk p.noCache hq { s with world := w }
  | @built roots' w answer b read pruned made s' hroots' hread hstale hpruned hcreates
    hanswer hversions
      hnumber hstore hbuild =>
      obtain rfl := Except.ok.inj (hroots'.symm.trans hroots)
      have hkept : known pruned.store q = some (settled p.noCache (known s.store q) content) := by
        have hcontains : (roots'.contains q || disk.exists? q) = true := by
          rw [List.contains_iff_mem.mpr hq, Bool.true_or]
        have hget := get?_session_prune disk roots' read q
        rw [if_pos hcontains] at hget
        rw [hpruned.1, known_of_get? hget, hread]
        exact known_readAll hdisk p.noCache hq { s with world := w }
      cases hcreates with
      | unfound hkept hfound => cases hanswer
      | built hroots'' hfound hget hsources hbuild' =>
          rw [hstore, known_of_filled (hget q), hkept, Option.some_or]

end Recheck.Proofs.Readings
