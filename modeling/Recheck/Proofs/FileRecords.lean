import Mathlib.Algebra.Group.Nat.Defs
import Recheck.Proofs.DiskPrograms
import Recheck.Proofs.ListingSteps
import Recheck.Proofs.ProgramReuse
import Recheck.Proofs.RelativePaths

/-!
The records of one file of a program and the records of the whole program. Records name their
files by the way from the project root, and behind one slash no two files have the same way. So
the records of a file can be found among those of the program.
-/

namespace Recheck.Proofs.FileRecords

open Recheck.Proofs.Activities
open Recheck.Proofs.DiskPrograms
open Recheck.Proofs.Distinct
open Recheck.Proofs.LineParts
open Recheck.Proofs.ListingSteps
open Recheck.Proofs.Paths
open Recheck.Proofs.RelativePaths

variable {σ : Type} {directory : Text}

section

variable {α κ : Type} [BEq κ]

theorem gather_eq_flatMap (key : α → κ) (items : List α) :
    gather key items =
      (items.map key).eraseDups.flatMap fun k => items.filter fun item => key item == k := by
  simp [gather, groupBy, List.flatMap_map]

variable [LawfulBEq κ]

theorem mem_gather {key : α → κ} {items : List α} {item : α} :
    item ∈ gather key items ↔ item ∈ items := by
  simp only [gather_eq_flatMap, List.mem_flatMap, List.mem_eraseDups, List.mem_map,
    List.mem_filter, beq_iff_eq]
  constructor
  · rintro ⟨k, -, hmem, -⟩
    exact hmem
  · intro hmem
    exact ⟨key item, ⟨item, hmem, rfl⟩, hmem, rfl⟩

theorem flatMap_filter_of_nodup {key : α → κ} {items : List α} {keys : List κ} (h : keys.Nodup)
    (k : κ) :
    keys.flatMap (fun k' => (items.filter fun item => key item == k').filter (key · == k)) =
      if k ∈ keys then items.filter (key · == k) else [] := by
  induction keys with
  | nil => rfl
  | cons k' keys ih =>
      obtain ⟨hnew, hkeys⟩ := List.nodup_cons.mp h
      rw [List.flatMap_cons, ih hkeys, List.filter_filter]
      by_cases hk : k = k'
      · subst hk
        simp [hnew]
      · have hnone : (items.filter fun item => key item == k && key item == k') = [] := by
          rw [List.filter_eq_nil_iff]
          intro item _
          simp only [Bool.and_eq_true, beq_iff_eq, not_and]
          rintro rfl
          exact hk
        simp [hnone, hk]

theorem filter_gather (key : α → κ) (items : List α) (k : κ) :
    (gather key items).filter (key · == k) = items.filter (key · == k) := by
  rw [gather_eq_flatMap, List.filter_flatMap, flatMap_filter_of_nodup (nodup_eraseDups _)]
  split
  · rfl
  · next hnone =>
      symm
      rw [List.filter_eq_nil_iff]
      intro item hitem hkey
      refine hnone (List.mem_eraseDups.mpr (List.mem_map.mpr ⟨item, hitem, ?_⟩))
      simpa using hkey

theorem gather_of_forall {key : α → κ} {items : List α} {k : κ} (h : ∀ item ∈ items, key item = k) :
    gather key items = items := by
  have hitems : items.filter (key · == k) = items := by
    rw [List.filter_eq_self]
    exact fun item hitem => beq_iff_eq.mpr (h item hitem)
  have hgather : (gather key items).filter (key · == k) = gather key items := by
    rw [List.filter_eq_self]
    exact fun item hitem => beq_iff_eq.mpr (h item (mem_gather.mp hitem))
  rw [← hgather, filter_gather, hitems]

end

/-- What holds of each diagnostic of a listing. -/
structure Regular (d : Diagnostic) : Prop where
  line : 0 ≤ d.line
  column : 0 ≤ d.column
  code : d.code ≠ []
  syntactic : d.syntactic = (d.code == Diagnostic.syntaxCode)
  file : ∀ file, d.file = some file → Path.clean file = file

theorem code_of_parse? {line : Text} {parts : MessageLine}
    (h : MessageLine.parse? line = some parts) : parts.code.getD Diagnostic.defaultCode ≠ [] := by
  obtain ⟨i, hcut⟩ := cutAt_of_parse? h
  cases hcode : parts.code with
  | none => simp [Diagnostic.defaultCode]
  | some code => exact (hcode ▸ hcut.ending).isCode.1

theorem regular_unlocated (line : Text) : Regular (Diagnostic.unlocated line) where
  line := Int.le_refl 0
  column := Int.le_refl 0
  code := by simp [Diagnostic.unlocated, Diagnostic.defaultCode]
  syntactic := rfl
  file _ h := by cases h

theorem Regular.attach {d : Diagnostic} (h : Regular d) (note : Text) : Regular (d.attach note) :=
  ⟨h.line, h.column, h.code, h.syntactic, h.file⟩

theorem regular_located {line : Text} {parts : MessageLine}
    (h : MessageLine.parse? line = some parts) : Regular (located directory parts) where
  line := ordinal_nonneg parts.line
  column := ordinal_nonneg parts.column
  code := code_of_parse? h
  syntactic := rfl
  file file hfile := by
    obtain rfl := Option.some.inj hfile
    exact clean_normalize directory parts.file

theorem regular_of_owns {raw : Text} {own : Diagnostic} (h : Owns directory raw own) :
    Regular own := by
  rcases h with ⟨-, rfl⟩ | ⟨parts, hparse, -, -, rfl⟩
  · exact regular_unlocated _
  · exact regular_located hparse

/-- The position of a diagnostic can be spelled, as its record counts it. -/
structure Placed (d : Diagnostic) : Prop where
  line : Text.isSpellable (d.line + 1)
  column : Text.isSpellable (d.column + 1)

theorem digitValue_lt (c : Char) : (Text.digitValue? c).getD 0 < 10 := by
  unfold Text.digitValue?
  cases hbase : Text.zeroCodes.find? fun base => base ≤ c.toNat && c.toNat < base + 10 with
  | none => simp
  | some base =>
      have hrange := List.find?_some hbase
      simp only [Bool.and_eq_true, decide_eq_true_eq] at hrange
      simp only [Option.map_some, Option.getD_some]
      omega

theorem decimalValue_lt (digits : Text) : Text.decimalValue digits < 10 ^ digits.length := by
  induction digits using List.reverseRecOn with
  | nil => simp [Text.decimalValue]
  | append_singleton digits c ih =>
      have hdigit := digitValue_lt c
      simp only [Text.decimalValue, List.foldl_append, List.foldl_cons, List.foldl_nil,
        List.length_append, List.length_singleton, Nat.pow_succ] at ih ⊢
      omega

theorem isSpellable_succ_iff (n : Nat) :
    Text.isSpellable (Int.ofNat n + 1) ↔ n + 1 < 10 ^ Text.maxDigits := by
  have habs : (Int.ofNat n + 1).natAbs = n + 1 := rfl
  rw [Text.isSpellable, habs, Nat.pow_eq, decide_eq_true_eq]

theorem spellable_of_index {number : Option Text} {n : Nat} (h : MessageLine.index number = .ok n) :
    Text.isSpellable (Int.ofNat n + 1) := by
  rw [isSpellable_succ_iff]
  have hone : 1 < 10 ^ Text.maxDigits := Nat.one_lt_pow (by decide) (by decide)
  have hvalue : ∀ digits : Text, ¬ Text.maxDigits < digits.length →
      Text.decimalValue digits < 10 ^ Text.maxDigits := fun digits hshort =>
    Nat.lt_of_lt_of_le (decimalValue_lt digits)
      (Nat.pow_le_pow_right (by decide) (Nat.not_lt.mp hshort))
  unfold MessageLine.index at h
  split at h
  · obtain rfl := Except.ok.inj h
    exact hone
  · split at h
    · cases h
    · obtain rfl := Except.ok.inj h
      exact hone
  · split at h
    · cases h
    · next digits hshort =>
        have hlt := hvalue _ ‹_›
        obtain rfl := Except.ok.inj h
        omega

theorem placed_unlocated (line : Text) : Placed (Diagnostic.unlocated line) := by
  have hfirst : MessageLine.index none = .ok 0 := rfl
  exact ⟨spellable_of_index hfirst, spellable_of_index hfirst⟩

theorem spellable_of_short {number : Option Text} (h : Short number) :
    Text.isSpellable (ordinal number + 1) := by
  obtain ⟨n, hindex, hordinal⟩ := index_of_short h
  rw [← hordinal, ← Int.ofNat_eq_natCast]
  exact spellable_of_index hindex

theorem placed_of_owns {raw : Text} {own : Diagnostic} (h : Owns directory raw own) :
    Placed own := by
  rcases h with ⟨-, rfl⟩ | ⟨parts, -, hline, hcolumn, rfl⟩
  · exact placed_unlocated _
  · exact ⟨spellable_of_short hline, spellable_of_short hcolumn⟩

theorem addLine_cases {done done' : List Diagnostic} {raw : Text}
    (h : Diagnostic.addLine directory done raw = .ok done') :
    done' = done ∨ (∃ d, done' = d :: done ∧ Regular d ∧ Placed d) ∨
      ∃ previous earlier note, done = previous :: earlier ∧
        done' = previous.attach note :: earlier := by
  cases hshown : shown raw with
  | false =>
      rw [addLine_of_not_shown hshown] at h
      exact .inl (Except.ok.inj h).symm
  | true =>
      rcases addLine_cases_of_shown hshown h with
        ⟨own, howns, -, rfl, -⟩ | ⟨parts, previous, earlier, -, rfl, -, rfl⟩
      · exact .inr (.inl ⟨own, rfl, regular_of_owns howns, placed_of_owns howns⟩)
      · exact .inr (.inr ⟨previous, earlier, parts.message, rfl, rfl⟩)

/-- What holds of every new diagnostic, whatever notes are attached to it, holds of all. -/
theorem forall_foldlM {P : Diagnostic → Prop} (hnew : ∀ d, Regular d → Placed d → P d)
    (hattach : ∀ d note, P d → P (d.attach note)) {lines : List Text}
    {done done' : List Diagnostic} (hdone : ∀ d ∈ done, P d)
    (h : lines.foldlM (Diagnostic.addLine directory) done = .ok done') : ∀ d ∈ done', P d := by
  induction lines generalizing done with
  | nil =>
      obtain rfl := Except.ok.inj h
      exact hdone
  | cons line lines ih =>
      rw [List.foldlM_cons] at h
      cases hline : Diagnostic.addLine directory done line with
      | error failure => simp [hline, bind, Except.bind] at h
      | ok next =>
          rw [hline] at h
          refine ih ?_ h
          rcases addLine_cases hline with rfl | ⟨d, rfl, hregular, hplaced⟩ |
            ⟨previous, earlier, note, rfl, rfl⟩
          · exact hdone
          · exact List.forall_mem_cons.mpr ⟨hnew d hregular hplaced, hdone⟩
          · obtain ⟨hprevious, hearlier⟩ := List.forall_mem_cons.mp hdone
            exact List.forall_mem_cons.mpr ⟨hattach previous note hprevious, hearlier⟩

theorem forall_program {P : Diagnostic → Prop} (hnew : ∀ d, Regular d → Placed d → P d)
    (hattach : ∀ d note, P d → P (d.attach note)) {lines files : List Text} {program : Program}
    (h : Program.ofLines directory lines files = .ok program) :
    ∀ d ∈ program.diagnostics, P d := by
  rw [ofLines_eq] at h
  obtain ⟨diagnostics, hlines, rfl⟩ := exists_of_map_eq_ok h
  obtain ⟨done, hdone, rfl⟩ := exists_of_map_eq_ok hlines
  intro d hd
  exact forall_foldlM hnew hattach (by simp) hdone d (List.mem_reverse.mp hd)

theorem placed_program {lines files : List Text} {program : Program}
    (h : Program.ofLines directory lines files = .ok program) :
    ∀ d ∈ program.diagnostics, Placed d :=
  forall_program (fun _ _ hplaced => hplaced) (fun _ _ hplaced => ⟨hplaced.1, hplaced.2⟩) h

theorem regular_program {lines files : List Text} {program : Program}
    (h : Program.ofLines directory lines files = .ok program) :
    (∀ d ∈ program.diagnostics, Regular d) ∧
      ∀ path ∈ program.files, Path.clean path = path := by
  refine ⟨forall_program (fun _ hregular _ => hregular) (fun _ note h => h.attach note) h, ?_⟩
  rw [ofLines_eq] at h
  obtain ⟨diagnostics, -, rfl⟩ := exists_of_map_eq_ok h
  intro path hpath
  obtain ⟨original, -, rfl⟩ := List.mem_map.mp (List.mem_eraseDups.mp hpath)
  exact clean_normalize directory original

/-- The record of a diagnostic, if it is a located error or warning. -/
def recordOf (directory root : Text) (d : Diagnostic) : Option Record :=
  match d.file, d.category with
  | none, _ | _, .message => none
  | some file, category =>
    some { file := Path.relative directory file root, line := d.line + 1, column := d.column + 1
           code := d.code, message := d.flatten ['\n'], severity := Record.severityOf category }

theorem problemsOf_eq_nil {line column : Int} {code : Text} (hline : 0 ≤ line)
    (hcolumn : 0 ≤ column) (hcode : code ≠ []) :
    Record.problemsOf (line + 1) (column + 1) code = [] := by
  have hline' : ¬ line + 1 < 1 := by omega
  have hcolumn' : ¬ column + 1 < 1 := by omega
  simp [Record.problemsOf, hline', hcolumn', hcode]

/-- A diagnostic that goes into a record: a located error or warning. -/
def Kept (d : Diagnostic) : Prop := d.file ≠ none ∧ d.category ≠ .message

/-- What a record asks of a diagnostic. -/
structure Acceptable (d : Diagnostic) : Prop where
  line : 0 ≤ d.line
  column : 0 ≤ d.column
  code : d.code ≠ []

theorem Regular.acceptable {d : Diagnostic} (h : Regular d) : Acceptable d :=
  ⟨h.line, h.column, h.code⟩

theorem Regular.file_ne {d : Diagnostic} (h : Regular d) : d.file ≠ some [] := fun hfile =>
  clean_ne_nil [] (h.file [] hfile)

theorem ofDiagnostic?_of_acceptable {d : Diagnostic} (hfile : d.file ≠ some [])
    (h : Kept d → Acceptable d) (directory root : Text) :
    Record.ofDiagnostic? directory root d = .ok (recordOf directory root d) := by
  unfold Record.ofDiagnostic? recordOf
  cases hsome : d.file with
  | none => rfl
  | some file =>
      have hne : file.isEmpty = false := by
        rw [List.isEmpty_eq_false_iff]
        rintro rfl
        exact hfile hsome
      cases hcategory : d.category with
      | message => rfl
      | error | warning =>
          obtain ⟨hline, hcolumn, hcode⟩ := h ⟨by simp [hsome], by simp [hcategory]⟩
          simp [Record.ofLocated, hne, problemsOf_eq_nil hline hcolumn hcode, hcategory]

theorem ofDiagnostics_of_acceptable {diagnostics : List Diagnostic}
    (hfile : ∀ d ∈ diagnostics, d.file ≠ some []) (h : ∀ d ∈ diagnostics, Kept d → Acceptable d)
    (directory root : Text) :
    Record.ofDiagnostics directory root diagnostics =
      .ok (gather Record.file (diagnostics.filterMap (recordOf directory root))) := by
  have hrecords : diagnostics.mapM (Record.ofDiagnostic? directory root) =
      .ok (diagnostics.map (recordOf directory root)) :=
    mapM_eq_ok fun d hd => ofDiagnostic?_of_acceptable (hfile d hd) (h d hd) directory root
  simp [Record.ofDiagnostics, hrecords, Except.map, List.filterMap_map]

theorem ofDiagnostics_of_regular {diagnostics : List Diagnostic}
    (h : ∀ d ∈ diagnostics, Regular d) (directory root : Text) :
    Record.ofDiagnostics directory root diagnostics =
      .ok (gather Record.file (diagnostics.filterMap (recordOf directory root))) :=
  ofDiagnostics_of_acceptable (fun d hd => (h d hd).file_ne)
    (fun d hd _ => (h d hd).acceptable) directory root

theorem of_recordOf {root : Text} {d : Diagnostic} {r : Record}
    (h : recordOf directory root d = some r) :
    ∃ file, d.file = some file ∧ r.file = Path.relative directory file root ∧
      r.code = d.code := by
  unfold recordOf at h
  cases hfile : d.file with
  | none => simp [hfile] at h
  | some file =>
      refine ⟨file, rfl, ?_⟩
      cases hcategory : d.category <;> simp only [hfile, hcategory] at h <;> cases h <;>
        exact ⟨rfl, rfl⟩

theorem filter_filterMap_recordOf {root : Text} {diagnostics : List Diagnostic}
    {keep : Record → Bool} {keep' : Diagnostic → Bool}
    (h : ∀ d ∈ diagnostics, ∀ r, recordOf directory root d = some r → keep r = keep' d) :
    (diagnostics.filterMap (recordOf directory root)).filter keep =
      (diagnostics.filter keep').filterMap (recordOf directory root) := by
  rw [List.filter_filterMap, List.filterMap_filter]
  refine List.filterMap_congr fun d hd => ?_
  cases hrecord : recordOf directory root d with
  | none => simp
  | some r => simp [Option.filter, h d hd r hrecord]

/-- Records with those of syntax errors first. -/
def syntaxFirst (records : List Record) : List Record :=
  records.filter (·.code == Diagnostic.syntaxCode) ++
    records.filter (!·.code == Diagnostic.syntaxCode)

/-- The diagnostics of a file. -/
def diagnosticsOf (program : Program) (path : Text) : List Diagnostic :=
  program.diagnostics.filter (·.file == some path)

theorem fileRecords_of_mem {program : Program} (hregular : ∀ d ∈ program.diagnostics, Regular d)
    {path : Text} (hpath : path ∈ program.files) (hclean : Path.clean path = path)
    (p : Project σ) :
    p.fileRecords program path =
      .ok (syntaxFirst ((diagnosticsOf program path).filterMap (recordOf p.directory p.root))) := by
  set own := diagnosticsOf program path with hown
  have habout : program.about p.directory path = .ok own := by
    rw [Program.about, normalize_of_clean hclean, if_pos (List.contains_iff_mem.mpr hpath)]
    rfl
  have hmem : ∀ d ∈ own.filter (·.syntactic) ++ own.filter (!·.syntactic), d ∈ own := by
    simp only [List.mem_append, List.mem_filter]
    rintro d (⟨hd, -⟩ | ⟨hd, -⟩) <;> exact hd
  have hregular' : ∀ d ∈ own, Regular d := fun d hd => hregular d (List.mem_filter.mp hd).1
  have hrecords := ofDiagnostics_of_regular (fun d hd => hregular' d (hmem d hd))
    p.directory p.root
  rw [gather_of_forall (k := Path.relative p.directory path p.root)] at hrecords
  · have hbroken : ∀ d ∈ own, ∀ r, recordOf p.directory p.root d = some r →
        (r.code == Diagnostic.syntaxCode) = d.syntactic := by
      intro d hd r hr
      obtain ⟨-, -, -, hcode⟩ := of_recordOf hr
      rw [hcode, (hregular' d hd).syntactic]
    have hother : ∀ d ∈ own, ∀ r, recordOf p.directory p.root d = some r →
        (!r.code == Diagnostic.syntaxCode) = !d.syntactic :=
      fun d hd r hr => congrArg not (hbroken d hd r hr)
    have hsplit : p.fileRecords program path = Record.ofDiagnostics p.directory p.root
        (own.filter (·.syntactic) ++ own.filter (!·.syntactic)) := by
      simp [Project.fileRecords, Program.syntacticErrors, Program.semanticErrors, habout,
        Except.map, bind, Except.bind]
    rw [hsplit, hrecords, List.filterMap_append, syntaxFirst, filter_filterMap_recordOf hbroken,
      filter_filterMap_recordOf hother]
  · intro r hr
    obtain ⟨d, hd, hrecord⟩ := List.mem_filterMap.mp hr
    obtain ⟨file, hfile, hrelative, -⟩ := of_recordOf hrecord
    have hsame : d.file = some path := by simpa using (List.mem_filter.mp (hmem d hd)).2
    rw [hrelative, Option.some.inj (hfile.symm.trans hsame)]

theorem rooted_of_regular {d : Diagnostic} (h : Regular d) {file : Text}
    (hfile : d.file = some file) (hlead : Path.lead file = ['/']) : Rooted file :=
  ⟨h.file file hfile, hlead⟩

theorem filter_records {diagnostics : List Diagnostic} (hregular : ∀ d ∈ diagnostics, Regular d)
    (hlead : ∀ d ∈ diagnostics, ∀ file, d.file = some file → Path.lead file = ['/'])
    {path : Text} (hpath : Rooted path) (root : Text) :
    (gather Record.file (diagnostics.filterMap (recordOf directory root))).filter
        (·.file == Path.relative directory path root) =
      (diagnostics.filter (·.file == some path)).filterMap (recordOf directory root) := by
  rw [filter_gather]
  refine filter_filterMap_recordOf fun d hd r hr => ?_
  obtain ⟨file, hfile, hrelative, -⟩ := of_recordOf hr
  have hrooted := rooted_of_regular (hregular d hd) hfile (hlead d hd file hfile)
  rw [hrelative, hfile, Bool.eq_iff_iff, beq_iff_eq, beq_iff_eq, Option.some.injEq]
  exact ⟨relative_injective hrooted hpath, fun h => h ▸ rfl⟩

theorem mem_syntaxFirst {records : List Record} {r : Record} :
    r ∈ syntaxFirst records ↔ r ∈ records := by
  cases hcode : r.code == Diagnostic.syntaxCode <;>
    simp [syntaxFirst, hcode]

theorem fileRecords_of_not_mem {program : Program} {path : Text} (hpath : path ∉ program.files)
    (hclean : Path.clean path = path) (p : Project σ) :
    p.fileRecords program path = .error (.fault (.notInProgram path)) := by
  simp [Project.fileRecords, Program.syntacticErrors, Program.about, normalize_of_clean hclean,
    hpath, Except.map, bind, Except.bind]

theorem mem_fileRecords_iff {program : Program}
    (hregular : ∀ d ∈ program.diagnostics, Regular d)
    (hlead : ∀ d ∈ program.diagnostics, ∀ file, d.file = some file → Path.lead file = ['/'])
    {p : Project σ} {d : Diagnostic} {r : Record} (hd : d ∈ program.diagnostics)
    (hrecord : recordOf p.directory p.root d = some r) {file path : Text}
    (hfile : d.file = some file) (hpath : path ∈ program.files) (hclean : Path.clean path = path) :
    (∃ own, p.fileRecords program path = .ok own ∧ r ∈ own) ↔ path = file := by
  rw [fileRecords_of_mem hregular hpath hclean]
  simp only [Except.ok.injEq, exists_eq_left', mem_syntaxFirst, List.mem_filterMap, diagnosticsOf,
    List.mem_filter, beq_iff_eq]
  have hrooted {d : Diagnostic} {file : Text} (hd : d ∈ program.diagnostics)
      (hfile : d.file = some file) : Rooted file :=
    rooted_of_regular (hregular d hd) hfile (hlead d hd file hfile)
  constructor
  · rintro ⟨d', ⟨hd', hpath'⟩, hrecord'⟩
    obtain ⟨_, hfile₁, hrelative, -⟩ := of_recordOf hrecord
    obtain ⟨_, hfile₂, hrelative', -⟩ := of_recordOf hrecord'
    obtain rfl := Option.some.inj (hfile.symm.trans hfile₁)
    obtain rfl := Option.some.inj (hpath'.symm.trans hfile₂)
    exact relative_injective (hrooted hd' hpath') (hrooted hd hfile)
      (hrelative'.symm.trans hrelative)
  · rintro rfl
    exact ⟨d, ⟨hd, hfile⟩, hrecord⟩

/-- The records of one file of a program are those among the records of the whole program that
name the way to the file, those of syntax errors first. A record of the whole program is one of
its own file alone, if the program holds the file, and else of none. -/
theorem fileRecords_eq_filter {p : Project σ} {lines files : List Text} {program : Program}
    (hprogram : Program.ofLines p.directory lines files = .ok program)
    (hlead : ∀ d ∈ program.diagnostics, ∀ file, d.file = some file → Path.lead file = ['/']) :
    ∃ records, Record.ofDiagnostics p.directory p.root program.diagnostics = .ok records ∧
      (∀ path ∈ program.files, Path.lead path = ['/'] →
        p.fileRecords program path =
          .ok (syntaxFirst (records.filter (·.file == Path.relative p.directory path p.root)))) ∧
      ∀ r ∈ records, ∃ file, Rooted file ∧ r.file = Path.relative p.directory file p.root ∧
        (file ∈ program.files → ∀ path ∈ program.files,
          (∃ own, p.fileRecords program path = .ok own ∧ r ∈ own) ↔ path = file) ∧
        (file ∉ program.files →
          p.fileRecords program file = .error (.fault (.notInProgram file)) ∧
            ∀ path ∈ program.files, ∀ own, p.fileRecords program path = .ok own → r ∉ own) := by
  obtain ⟨hregular, hclean⟩ := regular_program hprogram
  refine ⟨_, ofDiagnostics_of_regular hregular p.directory p.root, ?_, ?_⟩
  · intro path hpath hslash
    rw [filter_records hregular hlead ⟨hclean path hpath, hslash⟩,
      fileRecords_of_mem hregular hpath (hclean path hpath), diagnosticsOf]
  · intro r hr
    obtain ⟨d, hd, hrecord⟩ := List.mem_filterMap.mp (mem_gather.mp hr)
    obtain ⟨file, hfile, hrelative, -⟩ := of_recordOf hrecord
    have hrooted := rooted_of_regular (hregular d hd) hfile (hlead d hd file hfile)
    have hown {path : Text} (hpath : path ∈ program.files) :=
      mem_fileRecords_iff (p := p) hregular hlead hd hrecord hfile hpath (hclean path hpath)
    refine ⟨file, hrooted, hrelative, fun _ path hpath => hown hpath, fun habsent => ?_⟩
    refine ⟨fileRecords_of_not_mem habsent hrooted.1 p, fun path hpath own hanswer hmem => ?_⟩
    exact habsent ((hown hpath).mp ⟨own, hanswer, hmem⟩ ▸ hpath)

open ProgramReuse (pair)

/-- Messages about a file that is loaded and about one that is not. -/
def messages : List Text :=
  ["/a:1:1: error: x  [misc]", "/b:1:1: error: y  [misc]", "/a:2:1: error: z  [syntax]"]

/-- The program with these messages, of the first file. -/
def listed : Program where
  diagnostics := [
    { file := some ['/', 'a'], line := 0, column := 0, code := Diagnostic.defaultCode
      chain := [['x']] },
    { file := some ['/', 'b'], line := 0, column := 0, code := Diagnostic.defaultCode
      chain := [['y']] },
    { file := some ['/', 'a'], line := 1, column := 0, code := Diagnostic.syntaxCode
      chain := [['z']], syntactic := true }]
  files := [['/', 'a']]

theorem fileRecords_eq_filter_listed :
    Program.ofLines pair.directory messages [['/', 'a']] = .ok listed ∧
    (∀ d ∈ listed.diagnostics, ∀ file, d.file = some file → Path.lead file = ['/']) ∧
    ∃ records, Record.ofDiagnostics pair.directory ['/'] listed.diagnostics = .ok records ∧
      records.map (·.line) = [1, 2, 1] ∧
      pair.fileRecords listed ['/', 'a'] =
        .ok (syntaxFirst (records.filter
          (·.file == Path.relative pair.directory ['/', 'a'] ['/']))) ∧
      (syntaxFirst (records.filter
        (·.file == Path.relative pair.directory ['/', 'a'] ['/']))).map (·.line) = [2, 1] := by
  have hprogram : Program.ofLines pair.directory messages [['/', 'a']] = .ok listed := by
    decide +kernel
  have hlead : ∀ d ∈ listed.diagnostics, ∀ file, d.file = some file → Path.lead file = ['/'] := by
    intro d hd file hfile
    simp only [listed, List.mem_cons, List.not_mem_nil, or_false] at hd
    rcases hd with rfl | rfl | rfl <;> cases hfile <;> rfl
  obtain ⟨records, hrecords, hown, -⟩ := fileRecords_eq_filter (p := pair) hprogram hlead
  have hlines : (Record.ofDiagnostics pair.directory pair.root listed.diagnostics).map
      (fun records => (records.map (·.line),
        (syntaxFirst (records.filter
          (·.file == Path.relative pair.directory ['/', 'a'] ['/']))).map (·.line))) =
      .ok ([1, 2, 1], [2, 1]) := by decide +kernel
  rw [hrecords] at hlines
  obtain ⟨hall, hsplit⟩ := Prod.mk.inj (Except.ok.inj hlines)
  exact ⟨hprogram, hlead, records, hrecords, hall,
    hown _ (List.mem_singleton.mpr rfl) rfl, hsplit⟩

/-- A path behind two slashes is not the one behind one, but the way from the root is the same. So
the record of a file behind one slash names a file behind two, which has no records. -/
theorem fileRecords_ne_filter_doubled :
    ∃ program record, Program.ofLines pair.directory ["/a:1:1: error: x  [misc]"]
        [['/', '/', 'a']] = .ok program ∧
      (∀ d ∈ program.diagnostics, d.file = some ['/', 'a']) ∧ ['/', '/', 'a'] ∈ program.files ∧
      Record.ofDiagnostics pair.directory pair.root program.diagnostics = .ok [record] ∧
      record.file = Path.relative pair.directory ['/', '/', 'a'] pair.root ∧
      pair.fileRecords program ['/', '/', 'a'] = .ok [] := by
  refine ⟨⟨[{ file := some ['/', 'a'], line := 0, column := 0, code := Diagnostic.defaultCode
              chain := [['x']] }], [['/', '/', 'a']]⟩,
    { file := ['a'], line := 1, column := 1, code := Diagnostic.defaultCode, message := ['x']
      severity := .error }, ?_⟩
  refine ⟨?_, ?_, ?_, ?_, ?_, ?_⟩ <;> decide +kernel

end Recheck.Proofs.FileRecords
