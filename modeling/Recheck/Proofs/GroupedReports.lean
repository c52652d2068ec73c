import Mathlib.Data.List.Nodup
import Recheck.Proofs.BatchChecks
import Recheck.Proofs.FileRecords
import Recheck.Proofs.ResolvedPaths
import Recheck.Report.Format

/-!
The order of the records of a report. Every query puts the records of one file together: a check
of one file has no others, a check of the project groups them, and a check of several files has
one block for each, in which the same way from the project root leads to the file. So a report is
listed in the same order in every format, although two of them group the records again.
-/

namespace Recheck.Proofs.GroupedReports

open Recheck.Proofs.Activities
open Recheck.Proofs.BatchChecks
open Recheck.Proofs.Distinct
open Recheck.Proofs.FileRecords
open Recheck.Proofs.Programs
open Recheck.Proofs.Queries
open Recheck.Proofs.RelativePaths
open Recheck.Proofs.ResolvedPaths
open Recheck.Proofs.Trees

variable {σ : Type} {p : Project σ} {disk : Disk} {directory : Text}

section

variable {α β κ : Type} [BEq κ] [LawfulBEq κ] {key : α → κ}

theorem gather_append {xs ys : List α} (h : ∀ x ∈ xs, ∀ y ∈ ys, key x ≠ key y) :
    gather key (xs ++ ys) = gather key xs ++ gather key ys := by
  have hnew : (ys.map key).removeAll (xs.map key) = ys.map key := by
    rw [List.removeAll, List.filter_eq_self]
    intro k hk
    obtain ⟨y, hy, rfl⟩ := List.mem_map.mp hk
    suffices key y ∉ xs.map key by simpa using this
    intro hmem
    obtain ⟨x, hx, hkey⟩ := List.mem_map.mp hmem
    exact h x hx y hy hkey
  rw [gather_eq_flatMap, List.map_append, List.eraseDups_append, hnew, List.flatMap_append,
    gather_eq_flatMap, gather_eq_flatMap]
  congr 1
  all_goals
    refine List.flatMap_congr fun k hk => ?_
    obtain ⟨item, hitem, rfl⟩ := List.mem_map.mp (List.mem_eraseDups.mp hk)
    rw [List.filter_append]
  · have hnone : ys.filter (fun y => key y == key item) = [] :=
      List.filter_eq_nil_iff.mpr fun y hy heq => h item hitem y hy (beq_iff_eq.mp heq).symm
    rw [hnone, List.append_nil]
  · have hnone : xs.filter (fun x => key x == key item) = [] :=
      List.filter_eq_nil_iff.mpr fun x hx heq => h x hx item hitem (beq_iff_eq.mp heq)
    rw [hnone, List.nil_append]

/-- Items that stand in blocks of different keys are together already. -/
theorem gather_flatMap {items : β → List α} {label : β → κ} {blocks : List β}
    (hlabel : ∀ b ∈ blocks, ∀ a ∈ items b, key a = label b)
    (hdistinct : (blocks.map label).Nodup) :
    gather key (blocks.flatMap items) = blocks.flatMap items := by
  induction blocks with
  | nil => rfl
  | cons b blocks ih =>
      obtain ⟨hfirst, hrest⟩ := List.forall_mem_cons.mp hlabel
      obtain ⟨hnew, hdistinct⟩ := List.nodup_cons.mp hdistinct
      rw [List.flatMap_cons, gather_append, gather_of_forall hfirst, ih hrest hdistinct]
      intro x hx y hy heq
      obtain ⟨b', hb', hy⟩ := List.mem_flatMap.mp hy
      refine hnew (List.mem_map.mpr ⟨b', hb', ?_⟩)
      rw [← hrest b' hb' y hy, ← heq, hfirst x hx]

theorem gather_gather (key : α → κ) (items : List α) :
    gather key (gather key items) = gather key items := by
  have hlabel : ∀ k ∈ (items.map key).eraseDups,
      ∀ item ∈ items.filter (fun item => key item == k), key item = id k :=
    fun k _ item hitem => beq_iff_eq.mp (List.mem_filter.mp hitem).2
  have hdistinct : ((items.map key).eraseDups.map id).Nodup := by
    rw [List.map_id]
    exact nodup_eraseDups _
  rw [gather_eq_flatMap key items]
  exact gather_flatMap hlabel hdistinct

end

theorem of_ofDiagnostic? {root : Text} {d : Diagnostic} {r : Record}
    (h : Record.ofDiagnostic? directory root d = .ok (some r)) :
    (∃ file, d.file = some file ∧ r.file = Path.relative directory file root) ∧
      r.line = d.line + 1 ∧ r.column = d.column + 1 := by
  unfold Record.ofDiagnostic? at h
  split at h
  · cases h
  · cases h
  · next category file hfile hcategory =>
      unfold Record.ofLocated at h
      split at h
      · cases h
      · split at h
        · obtain rfl := Option.some.inj (Except.ok.inj h)
          exact ⟨⟨file, hfile, rfl⟩, rfl, rfl⟩
        · cases h

theorem exists_of_mem_ofDiagnostics {root : Text} {diagnostics : List Diagnostic}
    {errors : List Record} (h : Record.ofDiagnostics directory root diagnostics = .ok errors) :
    ∀ r ∈ errors, ∃ d ∈ diagnostics, Record.ofDiagnostic? directory root d = .ok (some r) := by
  obtain ⟨records, hrecords, rfl⟩ := exists_of_map_eq_ok h
  intro r hr
  obtain ⟨r', hr', rfl⟩ := List.mem_filterMap.mp (mem_gather.mp hr)
  exact ((mapM_ok_mem hrecords).2 _).mp hr'

theorem file_of_ofDiagnostics {root file : Text} {diagnostics : List Diagnostic}
    {errors : List Record} (h : Record.ofDiagnostics directory root diagnostics = .ok errors)
    (hfile : ∀ d ∈ diagnostics, d.file = some file) :
    ∀ r ∈ errors, r.file = Path.relative directory file root := by
  intro r hr
  obtain ⟨d, hd, hrecord⟩ := exists_of_mem_ofDiagnostics h r hr
  obtain ⟨⟨file', hfile', hrelative⟩, -⟩ := of_ofDiagnostic? hrecord
  obtain rfl := Option.some.inj ((hfile d hd).symm.trans hfile')
  exact hrelative

theorem gather_of_ofDiagnostics {root : Text} {diagnostics : List Diagnostic}
    {errors : List Record} (h : Record.ofDiagnostics directory root diagnostics = .ok errors) :
    gather Record.file errors = errors := by
  obtain ⟨records, -, rfl⟩ := exists_of_map_eq_ok h
  exact gather_gather Record.file _

theorem mem_about {program : Program} {path : Text} {own : List Diagnostic}
    (h : program.about directory path = .ok own) :
    ∀ d ∈ own, d ∈ program.diagnostics ∧ d.file = some (Path.normalize directory path) := by
  unfold Program.about at h
  dsimp only at h
  split at h
  · obtain rfl := Except.ok.inj h
    simp
  · cases h

theorem exists_of_fileRecords {program : Program} {path : Text} {errors : List Record}
    (h : p.fileRecords program path = .ok errors) :
    ∃ own, Record.ofDiagnostics p.directory p.root own = .ok errors ∧
      ∀ d ∈ own, d ∈ program.diagnostics ∧ d.file = some (Path.normalize p.directory path) := by
  unfold Project.fileRecords Program.syntacticErrors Program.semanticErrors at h
  cases habout : program.about p.directory path with
  | error failure => simp [habout, Except.map, bind, Except.bind] at h
  | ok own =>
      rw [habout] at h
      refine ⟨_, h, fun d hd => mem_about habout d ?_⟩
      simp only [List.mem_append, List.mem_filter] at hd
      rcases hd with ⟨hd, -⟩ | ⟨hd, -⟩ <;> exact hd

theorem file_of_fileRecords {program : Program} {path : Text} {errors : List Record}
    (h : p.fileRecords program path = .ok errors) :
    ∀ r ∈ errors, r.file = Path.relative p.directory (Path.normalize p.directory path) p.root := by
  obtain ⟨own, hown, habout⟩ := exists_of_fileRecords h
  exact file_of_ofDiagnostics hown fun d hd => (habout d hd).2

/-- The files do not differ merely in the number of their leading slashes. -/
def Apart (files : List Text) : Prop :=
  ∀ a ∈ files, ∀ b ∈ files, Path.names a = Path.names b → a = b

theorem nodup_existing {paths files : List Text} (h : p.existing disk paths = .ok files) :
    files.Nodup := by
  obtain ⟨resolved, -, rfl⟩ := existing_eq_ok_iff.mp h
  exact (nodup_eraseDups resolved).filter _

theorem clean_existing {paths files : List Text} (h : p.existing disk paths = .ok files) :
    ∀ file ∈ files, Path.clean file = file := by
  intro file hfile
  obtain ⟨⟨path, -, hresolve⟩, -⟩ := (mem_existing h file).mp hfile
  exact clean_resolve hresolve

theorem apart_existing {paths files : List Text} (h : p.existing disk paths = .ok files)
    (hleads : ∀ path ∈ paths, ∃ names,
      disk.withoutLinks (Path.parts (Path.within p.root path)) = .ok names) : Apart files := by
  have hrooted : ∀ file ∈ files, Rooted file := by
    intro file hfile
    obtain ⟨⟨path, hpath, hresolve⟩, -⟩ := (mem_existing h file).mp hfile
    rw [resolve_eq_ok hresolve]
    rcases pathWithoutLinks_cases disk (Path.within p.root path) with
      ⟨names, hplain, -, hnames⟩ | ⟨stuck, hstuck, -⟩
    · rw [hnames]
      exact ⟨clean_pathOf hplain, lead_pathOf hplain⟩
    · obtain ⟨names, hnames⟩ := hleads path hpath
      cases hstuck.symm.trans hnames
  intro a ha b hb hnames
  rw [(hrooted a ha).eq_absolute, (hrooted b hb).eq_absolute, hnames]

theorem Apart.eq_of_relative {files : List Text} (h : Apart files)
    (hclean : ∀ file ∈ files, Path.clean file = file) {a b directory root : Text} (ha : a ∈ files)
    (hb : b ∈ files) (heq : Path.relative directory a root = Path.relative directory b root) :
    a = b := by
  have hway : way directory a root = way directory b root := by
    rw [← parts_relative, heq, parts_relative]
  have hnames : ∀ file ∈ files, namesFrom directory file = Path.names file := fun file hfile =>
    namesFrom_of_isAbsolute (Paths.isAbsolute_of_clean (hclean file hfile))
  refine h a ha b hb ?_
  rw [← hnames a ha, ← hnames b hb]
  exact namesFrom_eq_of_way hway

theorem gather_of_collected {program : Program} {paths files : List Text}
    (hexisting : p.existing disk paths = .ok files) (hapart : Apart files) {errors : List Record}
    {checked : Nat} (h : collected p program files = .ok (errors, checked)) :
    gather Record.file errors = errors := by
  rw [collected_of_decided (decided_of_collected h)] at h
  obtain rfl := congrArg Prod.fst (Except.ok.inj h)
  have hlabel : ∀ file ∈ files, ∀ r ∈ (found p program file).getD [],
      r.file = Path.relative p.directory file p.root := by
    intro file hfile r hr
    unfold found at hr
    cases hrecords : p.fileRecords program file with
    | error failure => simp [hrecords, Except.toOption] at hr
    | ok own =>
        rw [hrecords] at hr
        rw [file_of_fileRecords hrecords r hr,
          Paths.normalize_of_clean (clean_existing hexisting file hfile)]
  have hdistinct : (files.map fun file => Path.relative p.directory file p.root).Nodup :=
    (nodup_existing hexisting).map_on fun a ha b hb heq =>
      hapart.eq_of_relative (clean_existing hexisting) ha hb heq
  exact gather_flatMap hlabel hdistinct

/-- The pieces of a coloured text that show records: those in the colour of a severity. -/
def recordPieces (pieces : List Piece) : List Text :=
  (pieces.filter fun piece => piece.style == some .red || piece.style == some .yellow).map (·.text)

/-- The lines of a Markdown text that show records: the items of its lists. -/
def recordItems (lines : List Text) : List Text :=
  lines.filter ("- **Line ".toList.isPrefixOf ·)

theorem recordItems_append (xs ys : List Text) :
    recordItems (xs ++ ys) = recordItems xs ++ recordItems ys := List.filter_append xs ys

def isRecordPiece (piece : Piece) : Bool := piece.style == some .red || piece.style == some .yellow

def recordPiece (r : Record) : Piece := ⟨Report.recordLine r, some (Report.recordStyle r.severity)⟩

theorem filter_isRecordPiece_records (records : List Record) :
    (records.flatMap fun r => [recordPiece r, ⟨['\n'], none⟩]).filter isRecordPiece =
      records.map recordPiece := by
  induction records with
  | nil => rfl
  | cons r records ih =>
      rw [List.flatMap_cons, List.filter_append, ih, List.map_cons]
      cases hseverity : r.severity <;>
        simp [isRecordPiece, recordPiece, Report.recordStyle, hseverity]

theorem filter_isRecordPiece_groups (groups : List (Text × List Record)) :
    (groups.flatMap Report.groupPieces).filter isRecordPiece =
      (groups.flatMap Prod.snd).map recordPiece := by
  induction groups with
  | nil => rfl
  | cons group groups ih =>
      have hrecords := filter_isRecordPiece_records group.2
      simp only [recordPiece] at hrecords
      rw [List.flatMap_cons, List.filter_append, ih, Report.groupPieces, List.filter_append,
        List.filter_append, hrecords, List.flatMap_cons, List.map_append]
      simp [isRecordPiece]

theorem filter_isRecordPiece_pieces (report : Report) (showMetrics : Bool) :
    (report.pieces showMetrics).filter isRecordPiece =
      (gather Record.file report.errors).map recordPiece := by
  rw [Report.pieces, List.filter_append]
  cases herrors : report.errors with
  | nil => cases report.shown showMetrics <;> rfl
  | cons r errors =>
      have hgroups := filter_isRecordPiece_groups (Report.byFile (r :: errors))
      cases report.shown showMetrics with
      | none | some m => exact (List.append_nil _).trans hgroups

theorem recordPieces_pieces (report : Report) (showMetrics : Bool) :
    recordPieces (report.pieces showMetrics) =
      (gather Record.file report.errors).map Report.recordLine := by
  change ((report.pieces showMetrics).filter isRecordPiece).map (·.text) = _
  rw [filter_isRecordPiece_pieces, List.map_map]
  rfl

theorem recordItems_groups (groups : List (Text × List Record)) :
    recordItems (groups.flatMap fun group =>
        ("### " ++ group.1 : Text) :: [] :: group.2.map Report.recordItem ++ [[]]) =
      (groups.flatMap Prod.snd).map Report.recordItem := by
  have hrecords (records : List Record) :
      recordItems (records.map Report.recordItem) = records.map Report.recordItem := by
    rw [recordItems, List.filter_eq_self]
    intro line hline
    obtain ⟨r, -, rfl⟩ := List.mem_map.mp hline
    rfl
  induction groups with
  | nil => rfl
  | cons group groups ih =>
      have hheading : recordItems [("### " ++ group.1 : Text), []] = [] := rfl
      have hend : recordItems [[]] = [] := rfl
      rw [List.flatMap_cons, recordItems_append, ih, List.flatMap_cons, List.map_append]
      congr 1
      calc recordItems ([("### " ++ group.1 : Text), []] ++ group.2.map Report.recordItem ++ [[]])
        _ = group.2.map Report.recordItem := by
          rw [recordItems_append, recordItems_append, hheading, hrecords, hend]
          simp

theorem recordItems_markdownLines (report : Report) (showMetrics : Bool) :
    recordItems (report.markdownLines showMetrics) =
      (gather Record.file report.errors).map Report.recordItem := by
  rw [Report.markdownLines, recordItems_append]
  cases herrors : report.errors with
  | nil => cases report.shown showMetrics <;> rfl
  | cons r errors =>
      have hgroups := recordItems_groups (Report.byFile (r :: errors))
      cases report.shown showMetrics with
      | none | some m => exact (List.append_nil _).trans hgroups

/-- All formats list the records in the order in which the report has them. -/
structure Aligned (report : Report) : Prop where
  grouped : (Report.byFile report.errors).flatMap Prod.snd = report.errors
  json (showMetrics : Bool) : ∃ figures, report.toJson showMetrics =
    .object (("errors", .array (report.errors.map Record.toJson)) :: figures)
  human (showMetrics : Bool) :
    recordPieces (report.pieces showMetrics) = report.errors.map Report.recordLine
  markdown (showMetrics : Bool) :
    recordItems (report.markdownLines showMetrics) = report.errors.map Report.recordItem

theorem aligned_of_gather {report : Report} (h : gather Record.file report.errors = report.errors) :
    Aligned report where
  grouped := h
  json _ := ⟨_, rfl⟩
  human showMetrics := by rw [recordPieces_pieces, h]
  markdown showMetrics := by rw [recordItems_markdownLines, h]

/-- Different files never have records that name the same file. -/
def Distinguished (p : Project σ) (files : List Text) : Prop :=
  ∀ (program : Program), ∀ a ∈ files, ∀ b ∈ files, a ≠ b →
    ∀ own others, p.fileRecords program a = .ok own → p.fileRecords program b = .ok others →
      ∀ r ∈ own, ∀ r' ∈ others, r.file ≠ r'.file

theorem Apart.distinguished {paths files : List Text} (hapart : Apart files)
    (hexisting : p.existing disk paths = .ok files) : Distinguished p files := by
  intro program a ha b hb hne own others hown hothers r hr r' hr' heq
  have hclean := clean_existing hexisting
  rw [file_of_fileRecords hown r hr, file_of_fileRecords hothers r' hr',
    Paths.normalize_of_clean (hclean a ha), Paths.normalize_of_clean (hclean b hb)] at heq
  exact hne (hapart.eq_of_relative hclean ha hb heq)

theorem aligned_checkFile {path : Text} {s : Session σ} {report : Report}
    (h : (outcome (p.checkFile disk path) s).1 = .ok report) : Aligned report := by
  have hrun : (outcome (p.run disk (.single path)) s).1 = .ok report := h
  obtain ⟨program, checked, hverdict⟩ := verdict_of_run hrun
  cases hrefreshed : refreshed p disk (.single path) with
  | error failure =>
      rw [verdict_of_error hrefreshed] at hverdict
      cases hverdict
  | ok files =>
      obtain ⟨target, -, -, rfl⟩ := RootChecks.refreshed_eq_ok hrefreshed
      rw [verdict_single hrefreshed] at hverdict
      cases hrecords : p.fileRecords program target with
      | error failure =>
          rw [hrecords] at hverdict
          cases hverdict
      | ok errors =>
          rw [hrecords] at hverdict
          obtain rfl : errors = report.errors := congrArg Prod.fst (Except.ok.inj hverdict)
          exact aligned_of_gather (gather_of_forall (file_of_fileRecords hrecords))

theorem aligned_checkAll {s : Session σ} {report : Report}
    (h : (outcome (p.checkAll disk) s).1 = .ok report) : Aligned report := by
  have hrun : (outcome (p.run disk .whole) s).1 = .ok report := h
  obtain ⟨program, checked, hverdict⟩ := verdict_of_run hrun
  cases hrecords : Record.ofDiagnostics p.directory p.root program.diagnostics with
  | error failure => simp [verdict, refreshed, hrecords, bind, Except.bind] at hverdict
  | ok errors =>
      obtain rfl : errors = report.errors := by
        simp only [verdict, refreshed, hrecords, bind, Except.bind, pure, Except.pure] at hverdict
        exact congrArg Prod.fst (Except.ok.inj hverdict)
      exact aligned_of_gather (gather_of_ofDiagnostics hrecords)

/-- The order of a report about the files among some paths: it is the same in all formats if no two
of the files differ merely in their leading slashes, and none do where no link leads to itself. -/
def AlignedIfApart (p : Project σ) (disk : Disk) (paths : List Text) (report : Report) : Prop :=
  ∃ files, p.existing disk paths = .ok files ∧
    ((∀ path ∈ paths, ∃ names,
      disk.withoutLinks (Path.parts (Path.within p.root path)) = .ok names) → Apart files) ∧
    (Apart files → Aligned report ∧ Distinguished p files)

theorem aligned_checkPaths {paths : List Text} {s : Session σ} {report : Report}
    (h : (outcome (p.checkPaths disk paths) s).1 = .ok report) :
    AlignedIfApart p disk paths report := by
  have hrun : (outcome (p.run disk (.changed paths)) s).1 = .ok report := h
  obtain ⟨program, checked, hverdict⟩ := verdict_of_run hrun
  obtain ⟨files, hexisting⟩ := existing_of_checkPaths (Prod.ext h rfl)
  rw [verdict_changed hexisting] at hverdict
  refine ⟨files, hexisting, apart_existing hexisting, fun hapart => ?_⟩
  exact ⟨aligned_of_gather (gather_of_collected hexisting hapart hverdict),
    hapart.distinguished hexisting⟩

/-- A report that a query returns lists its records in one order in all formats, the records of a
file together. A check of several files relies on the files not to differ merely in their leading
slashes; different files are then told apart by their records. -/
theorem aligned_of_query (p : Project σ) (disk : Disk) (s : Session σ) (report : Report) :
    (∀ path, (outcome (p.checkFile disk path) s).1 = .ok report → Aligned report) ∧
      ((outcome (p.checkAll disk) s).1 = .ok report → Aligned report) ∧
      (∀ paths, (outcome (p.checkPaths disk paths) s).1 = .ok report →
        AlignedIfApart p disk paths report) ∧
      ∀ changed, (outcome (p.checkChanged changed disk) s).1 = .ok report →
        ∃ paths s', outcome (changed disk) s = (.ok paths, s') ∧
          AlignedIfApart p disk paths report := by
  refine ⟨fun path => aligned_checkFile, aligned_checkAll, fun paths => aligned_checkPaths,
    fun changed h => ?_⟩
  unfold Project.checkChanged at h
  rw [outcome_bind] at h
  rcases hchanged : outcome (changed disk) s with ⟨failure | paths, s'⟩
  · rw [hchanged] at h
    cases h
  · rw [hchanged] at h
    exact ⟨paths, s', rfl, aligned_checkPaths h⟩

open FreshAnswers (project marked)

def bName : Text := ['b', '.', 'p', 'y']

def cName : Text := ['c', '.', 'p', 'y']

/-- A disk with two files, and a link that leads to itself past the name of the first. -/
def slashedDisk : Disk :=
  ⟨[(bName, marked), (cName, marked), (['l'], .link (['l', '/', '/', '/'] ++ bName))]⟩

theorem aligned_of_query_turned : ∃ report,
    (outcome ((project [bName, cName]).checkPaths slashedDisk [cName, bName]) { world := {} }).1 =
        .ok report ∧
      report.errors.map Record.file = [cName, bName] ∧ Aligned report := by
  have hfiles : ((outcome ((project [bName, cName]).checkPaths slashedDisk [cName, bName])
      { world := {} }).1.map fun report => report.errors.map Record.file) = .ok [cName, bName] := by
    decide +kernel
  have hleads : ∀ path ∈ [cName, bName], ∃ names,
      slashedDisk.withoutLinks (Path.parts (Path.within ['/'] path)) = .ok names := by
    intro path hpath
    exact ⟨[path], by revert path; decide +kernel⟩
  obtain ⟨report, hreport, hnames⟩ := exists_of_map_eq_ok hfiles
  obtain ⟨-, -, hpaths, -⟩ := aligned_of_query (project [bName, cName]) slashedDisk
    { world := {} } report
  obtain ⟨files, -, hapart, haligned⟩ := hpaths [cName, bName] hreport
  exact ⟨report, hreport, hnames, (haligned (hapart hleads)).1⟩

/-- The first file is found a second time behind two slashes, past the link. -/
theorem not_aligned_slashed : ∃ report,
    (outcome ((project [['/', '/'] ++ bName, bName, cName]).checkPaths slashedDisk
        [['l'], cName, bName]) { world := {} }).1 = .ok report ∧
      report.errors.map Record.file = [bName, cName, bName] ∧
      (Report.byFile report.errors).flatMap Prod.snd ≠ report.errors := by
  have hfiles : ((outcome ((project [['/', '/'] ++ bName, bName, cName]).checkPaths slashedDisk
      [['l'], cName, bName]) { world := {} }).1.map fun report =>
        (report.errors.map Record.file,
          decide (gather Record.file report.errors = report.errors))) =
      .ok ([bName, cName, bName], false) := by decide +kernel
  obtain ⟨report, hreport, hshown⟩ := exists_of_map_eq_ok hfiles
  obtain ⟨hnames, hgather⟩ := Prod.mk.inj hshown
  exact ⟨report, hreport, hnames, of_decide_eq_false hgather⟩

end Recheck.Proofs.GroupedReports
