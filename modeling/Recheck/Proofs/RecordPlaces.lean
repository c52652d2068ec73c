import Recheck.Proofs.GroupedReports

/-!
Where the records of a report come from. Each is the record of a diagnostic of the program, and the
positions of diagnostics were spelled in the messages of the compiler, so they can be spelled again.
-/

namespace Recheck.Proofs.RecordPlaces

open Recheck.Proofs.Activities
open Recheck.Proofs.FileRecords
open Recheck.Proofs.GroupedReports
open Recheck.Proofs.Programs
open Recheck.Proofs.Queries
open Recheck.Proofs.SessionRuns

variable {σ : Type} {p : Project σ} {disk : Disk}

/-- The records are those of diagnostics of the program. -/
def Originate (p : Project σ) (program : Program) (records : List Record) : Prop :=
  ∀ r ∈ records, ∃ d ∈ program.diagnostics, Record.ofDiagnostic? p.directory p.root d = .ok (some r)

theorem originate_fileRecords {program : Program} {path : Text} {records : List Record}
    (h : p.fileRecords program path = .ok records) : Originate p program records := by
  obtain ⟨own, hown, habout⟩ := exists_of_fileRecords h
  intro r hr
  obtain ⟨d, hd, hrecord⟩ := exists_of_mem_ofDiagnostics hown r hr
  exact ⟨d, (habout d hd).1, hrecord⟩

theorem originate_collected {program : Program} {paths : List Text} {records : List Record}
    {checked : Nat} (h : collected p program paths = .ok (records, checked)) :
    Originate p program records := by
  induction paths generalizing records checked with
  | nil =>
      obtain ⟨rfl, -⟩ := Prod.mk.inj (Except.ok.inj h)
      simp [Originate]
  | cons path paths ih =>
      unfold collected at h
      split at h
      · next own hown =>
          obtain ⟨⟨rest, count⟩, hrest, heq⟩ := exists_of_map_eq_ok h
          obtain ⟨rfl, -⟩ := Prod.mk.inj heq
          intro r hr
          rcases List.mem_append.mp hr with hr | hr
          · exact originate_fileRecords hown r hr
          · exact ih hrest r hr
      · exact ih h
      · cases h

theorem originate_verdict {request : Request} {program : Program} {records : List Record}
    {checked : Nat} (h : verdict p disk request program = .ok (records, checked)) :
    Originate p program records := by
  cases hrefreshed : refreshed p disk request with
  | error failure => simp [verdict_of_error hrefreshed] at h
  | ok files =>
      cases request with
      | single path =>
          obtain ⟨file, -, -, rfl⟩ := RootChecks.refreshed_eq_ok hrefreshed
          rw [verdict_single hrefreshed] at h
          obtain ⟨own, hown, heq⟩ := exists_of_map_eq_ok h
          obtain ⟨rfl, -⟩ := Prod.mk.inj heq
          exact originate_fileRecords hown
      | changed paths =>
          rw [verdict_changed hrefreshed] at h
          exact originate_collected h
      | whole =>
          simp only [verdict, hrefreshed, bind, Except.bind] at h
          split at h
          · cases h
          · next errors herrors =>
              obtain ⟨rfl, -⟩ := Prod.mk.inj (Except.ok.inj h)
              exact exists_of_mem_ofDiagnostics herrors

/-- The positions of the records can be spelled. -/
def Spelled (records : List Record) : Prop :=
  ∀ r ∈ records, Text.isSpellable r.line ∧ Text.isSpellable r.column

theorem spelled_of_originate {program : Program} (hplaced : ∀ d ∈ program.diagnostics, Placed d)
    {records : List Record} (h : Originate p program records) : Spelled records := by
  intro r hr
  obtain ⟨d, hd, hrecord⟩ := h r hr
  obtain ⟨-, hline, hcolumn⟩ := of_ofDiagnostic? hrecord
  rw [hline, hcolumn]
  exact ⟨(hplaced d hd).line, (hplaced d hd).column⟩

/-- The program at hand has positions that can be spelled. -/
def PlacedAtHand (s : Session σ) : Prop :=
  ∀ b, s.build = some b → ∀ d ∈ b.program.diagnostics, Placed d

theorem placed_program_of_ok {s s' : Session σ} (hs : PlacedAtHand s) {b : Build}
    (h : outcome (p.program disk) s = (.ok b, s')) : ∀ d ∈ b.program.diagnostics, Placed d := by
  have hyields := program_yields p disk s
  rw [h] at hyields
  exact (forall_of_yields (fun _ _ _ => placed_program) hyields hs).1 b rfl

theorem spelled_of_run {request : Request} {s : Session σ} (hs : PlacedAtHand s) {report : Report}
    (h : (outcome (p.run disk request) s).1 = .ok report) : Spelled report.errors := by
  rcases program_of_run h with ⟨s₁, b, s₂, checked, hasked, hprogram, hverdict⟩ | ⟨-, hnone⟩
  · obtain ⟨paths, -, rfl⟩ := asked_eq hasked
    have hbuild := refreshAll_build disk paths { s with world := (p.tools.tick s.world).2 }
    have hasking : PlacedAtHand
        (refreshAll disk paths { s with world := (p.tools.tick s.world).2 }) :=
      fun b' hb' => hs b' (hbuild.symm.trans hb')
    exact spelled_of_originate (placed_program_of_ok hasking hprogram) (originate_verdict hverdict)
  · simp [Spelled, hnone]

end Recheck.Proofs.RecordPlaces
