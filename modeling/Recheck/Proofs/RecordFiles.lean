import Recheck.Proofs.RecordGroups

/-!
The files that records name. The way in a record, taken from the project root, leads back to the
file of the diagnostic, wherever the file lies. So records name one file exactly if their
diagnostics are about one file.
-/

namespace Recheck.Proofs.RecordFiles

open Recheck.Path
open Recheck.Proofs.Activities
open Recheck.Proofs.BatchChecks
open Recheck.Proofs.FileRecords
open Recheck.Proofs.GroupedReports
open Recheck.Proofs.RecordGroups
open Recheck.Proofs.RelativePaths

/-- The diagnostic is an error or a warning in the file, whose path is normalized and has one slash
in front. -/
structure Locates (d : Diagnostic) (file : Text) : Prop where
  located : d.file = some file
  category : d.category ≠ .message
  rooted : Rooted file

/-- The diagnostic becomes the record. -/
def Becomes (directory root : Text) (d : Diagnostic) (r : Record) : Prop :=
  Record.ofDiagnostic? directory root d = .ok (some r)

section

variable {d : Diagnostic} {file directory root : Text}

theorem Locates.kept (h : Locates d file) : Kept d := ⟨by simp [h.located], h.category⟩

theorem Locates.file_ne (h : Locates d file) : d.file ≠ some [] := by
  rw [h.located]
  rintro ⟨⟩
  cases h.rooted.2

theorem exists_recordOf (h : Kept d) (directory root : Text) :
    ∃ r, recordOf directory root d = some r := by
  unfold recordOf
  cases hfile : d.file with
  | none => exact absurd hfile h.1
  | some file =>
      cases hcategory : d.category with
      | message => exact absurd hcategory h.2
      | error | warning => exact ⟨_, rfl⟩

theorem Locates.exists_becomes (h : Locates d file) (hacceptable : Acceptable d)
    (directory root : Text) : ∃ r, Becomes directory root d r := by
  obtain ⟨r, hr⟩ := exists_recordOf h.kept directory root
  exact ⟨r, (ofDiagnostic?_of_acceptable h.file_ne (fun _ => hacceptable) directory root).trans
    (congrArg Except.ok hr)⟩

theorem Locates.acceptable (h : Locates d file) {r? : Option Record}
    (hr : Record.ofDiagnostic? directory root d = .ok r?) : Acceptable d := by
  by_contra hnot
  rw [ofDiagnostic?_of_not_acceptable h.file_ne h.kept hnot directory root] at hr
  cases hr

theorem Locates.exists_mem (h : Locates d file) {ds : List Diagnostic} (hd : d ∈ ds)
    {records : List Record} (hrecords : Record.ofDiagnostics directory root ds = .ok records) :
    ∃ r ∈ records, Becomes directory root d r := by
  obtain ⟨all, hall, rfl⟩ := exists_of_map_eq_ok hrecords
  obtain ⟨hok, hmem⟩ := mapM_ok_mem hall
  obtain ⟨_, hr?⟩ := hok d hd
  obtain ⟨r, hr⟩ := h.exists_becomes (h.acceptable hr?) directory root
  exact ⟨r, mem_gather.mpr (List.mem_filterMap.mpr ⟨some r, (hmem _).mpr ⟨d, hd, hr⟩, rfl⟩), hr⟩

theorem Becomes.file_eq {r : Record} (hr : Becomes directory root d r) (h : Locates d file) :
    r.file = Path.relative directory file root := by
  obtain ⟨⟨file', hfile', hrelative⟩, -⟩ := of_ofDiagnostic? hr
  obtain rfl := Option.some.inj (h.located.symm.trans hfile')
  exact hrelative

end

/-- Behind one slash, the file of a record leads from the root back to the file of the diagnostic,
whether that lies below the root or not. An error or warning has a record if its position and code
can be a record's, and has one wherever the diagnostics around it have records. Two records name one
file exactly if their diagnostics are about one file. -/
theorem normalize_within_file (directory : Text) {root : Text} (hroot : lead root = ['/'])
    {d : Diagnostic} {file : Text} (h : Locates d file) :
    ((∃ r, Becomes directory root d r) ↔ Acceptable d) ∧
    (∀ ds records, d ∈ ds → Record.ofDiagnostics directory root ds = .ok records →
      ∃ r ∈ records, Becomes directory root d r) ∧
    (∀ r, Becomes directory root d r → Path.normalize directory (within root r.file) = file) ∧
    ∀ d' file' r r', Locates d' file' → Becomes directory root d r → Becomes directory root d' r' →
      (r.file = r'.file ↔ file = file') := by
  refine ⟨⟨fun ⟨r, hr⟩ => h.acceptable hr, fun hacceptable =>
      h.exists_becomes hacceptable directory root⟩,
    fun ds records hd hrecords => h.exists_mem hd hrecords, fun r hr => ?_,
    fun d' file' r r' h' hr hr' => ?_⟩
  · rw [hr.file_eq h]
    exact h.rooted.normalize_within_relative hroot
  · rw [hr.file_eq h, hr'.file_eq h']
    exact ⟨relative_injective h.rooted h'.rooted, fun hsame => hsame ▸ rfl⟩

theorem normalize_within_file_outside :
    Locates (spelled "/p/a" 0 .error) "/p/a".toList ∧
    (∃ r, Becomes "/w".toList "/p/q".toList (spelled "/p/a" 0 .error) r ∧ r.file = "../a".toList ∧
      Path.normalize "/w".toList (within "/p/q".toList r.file) = "/p/a".toList) ∧
    ∃ r r', Becomes "/w".toList ['/'] (spelled "/p/a" 0 .error) r ∧
      Becomes "/w".toList ['/'] (spelled "/p/a" 3 .warning) r' ∧
      r.file = r'.file ∧ Path.normalize "/w".toList (within ['/'] r.file) = "/p/a".toList := by
  have h : Locates (spelled "/p/a" 0 .error) "/p/a".toList :=
    ⟨rfl, by decide, by decide +kernel, by decide⟩
  have h' : Locates (spelled "/p/a" 3 .warning) "/p/a".toList := ⟨rfl, by decide, h.rooted⟩
  have hacceptable : Acceptable (spelled "/p/a" 0 .error) := ⟨by decide, by decide, by decide⟩
  have hroot : lead "/p/q".toList = ['/'] := by decide
  have htop : lead ['/'] = ['/'] := rfl
  obtain ⟨hrecord, -, hback, -⟩ := normalize_within_file "/w".toList hroot h
  obtain ⟨hrecordTop, -, hbackTop, hsame⟩ := normalize_within_file "/w".toList htop h
  obtain ⟨r, hr⟩ := hrecord.mpr hacceptable
  obtain ⟨r₁, hr₁⟩ := hrecordTop.mpr hacceptable
  obtain ⟨r₂, hr₂⟩ := h'.exists_becomes ⟨by decide, by decide, by decide⟩ "/w".toList ['/']
  refine ⟨h, ⟨r, hr, ?_, hback r hr⟩, r₁, r₂, hr₁, hr₂, (hsame _ _ _ _ h' hr₁ hr₂).mpr rfl,
    hbackTop r₁ hr₁⟩
  rw [hr.file_eq h]
  decide +kernel

end Recheck.Proofs.RecordFiles
