import Mathlib.Data.Set.Card
import Recheck.Proofs.Listings
import Recheck.Proofs.RecordPlaces
import Recheck.Proofs.Trees

/-!
The files that a check of the whole project counts. Whether a file lies below the root is decided on
the text of its path, with a slash behind that of the root. For paths behind one slash this compares
their names, so that a directory beside the root counts for nothing, however its name begins.
-/

namespace Recheck.Proofs.OwnSources

open Recheck.Path
open Recheck.Proofs.Activities
open Recheck.Proofs.DiskPrograms
open Recheck.Proofs.Distinct
open Recheck.Proofs.FileRecords
open Recheck.Proofs.Listings
open Recheck.Proofs.Paths
open Recheck.Proofs.Programs
open Recheck.Proofs.Queries
open Recheck.Proofs.RelativePaths
open Recheck.Proofs.SessionRuns
open Recheck.Proofs.Trees

variable {σ : Type} {directory : Text}

theorem parts_append_slash (front back : Text) :
    parts (front ++ '/' :: back) = parts front ++ parts back := by
  rw [parts, List.splitOn_append_cons_self, List.filter_append]
  rfl

/-- With a slash behind it, a path is in front of just those that go on with another name. -/
theorem slash_isPrefix_glue_iff {front names : List Text} (hfront : ∀ name ∈ front, Plain name)
    (hnames : ∀ name ∈ names, Plain name) (hne : front ≠ []) :
    glue front ++ ['/'] <+: glue names ↔ front <+: names ∧ names ≠ front := by
  constructor
  · rintro ⟨back, hback⟩
    rw [List.append_assoc, List.singleton_append] at hback
    have hparts : names = front ++ parts back := by
      rw [← parts_glue hnames, ← hback, parts_append_slash, parts_glue hfront]
    refine ⟨⟨_, hparts.symm⟩, ?_⟩
    rintro rfl
    have hlength := congrArg List.length hback
    simp at hlength
  · rintro ⟨⟨back, rfl⟩, hproper⟩
    cases back with
    | nil => exact absurd (List.append_nil front) hproper
    | cons name back =>
        rw [glue_append_cons hne]
        exact ⟨glue (name :: back), by simp⟩

theorem getLast?_glue {names : List Text} (h : ∀ name ∈ names, Plain name) :
    ∀ c ∈ (glue names).getLast?, c ≠ '/' := by
  rcases List.eq_nil_or_concat names with rfl | ⟨front, name, rfl⟩
  · simp [glue]
  · obtain ⟨hne, hslash, -⟩ := h name (by simp)
    obtain ⟨before, hbefore⟩ : ∃ before, glue (front.concat name) = before ++ name := by
      rw [List.concat_eq_append]
      by_cases hfront : front = []
      · exact ⟨[], by simp [hfront, glue]⟩
      · refine ⟨glue front ++ ['/'], ?_⟩
        rw [glue_append_cons hfront]
        simp [glue]
    rintro c hc rfl
    rw [hbefore, List.getLast?_append_of_ne_nil _ hne] at hc
    exact hslash (List.mem_of_getLast? hc)

theorem dropTrailing_root {root : Text} (h : Rooted root) :
    Text.dropTrailing (· == '/') root ++ ['/'] =
      if names root = [] then ['/'] else '/' :: (glue (names root) ++ ['/']) := by
  have hglue := getLast?_glue (names_plain root)
  have hroot : root = '/' :: glue (names root) := h.eq_absolute
  split
  · next hnone =>
      rw [hnone] at hroot
      rw [hroot]
      rfl
  · next hsome =>
      have hne : glue (names root) ≠ [] := by
        intro hnil
        rw [← parts_glue (names_plain root), hnil] at hsome
        exact hsome rfl
      rw [dropTrailing_of_getLast?]
      · rw [← List.cons_append, ← hroot]
      · intro c hc
        rw [hroot, List.getLast?_cons_of_ne_nil hne] at hc
        simpa using hglue c hc

/-- A source of the project at the root: its names go on where those of the root end, and it is
neither a file of declarations nor part of a library. -/
structure Own (root path : Text) : Prop where
  below : names root <+: names path
  proper : names path ≠ names root
  source : ¬ ['.', 'p', 'y', 'i'] <:+ path
  project : ∀ marker ∈ Program.libraryMarkers, ¬ marker <:+: path

theorem has_iff_isInfix {part t : Text} : Text.has part t = true ↔ part <:+: t := by
  induction t with
  | nil => simp [Text.has]
  | cons c t ih =>
      rw [Text.has, Bool.or_eq_true, ih, List.isPrefixOf_iff_prefix, List.infix_cons_iff]

theorem isOwnSource_iff {root path : Text} (hroot : Rooted root) (hpath : Rooted path)
    (hne : path ≠ ['/']) : Program.isOwnSource root path = true ↔ Own root path := by
  have hbelow : List.isPrefixOf (Text.dropTrailing (· == '/') root ++ ['/']) path = true ↔
      names root <+: names path ∧ names path ≠ names root := by
    have hglue : path = '/' :: glue (names path) := hpath.eq_absolute
    rw [List.isPrefixOf_iff_prefix, dropTrailing_root hroot]
    split
    · next hnone =>
        have hsome : names path ≠ [] := by
          intro hnil
          rw [hnil] at hglue
          exact hne hglue
        refine iff_of_true ⟨_, hglue.symm⟩ ?_
        rw [hnone]
        exact ⟨List.nil_prefix, hsome⟩
    · next hsome =>
        have hcut : '/' :: (glue (names root) ++ ['/']) <+: path ↔
            glue (names root) ++ ['/'] <+: glue (names path) := by
          conv_lhs => rw [hglue, List.cons_prefix_cons]
          simp
        rw [hcut, slash_isPrefix_glue_iff (names_plain root) (names_plain path) hsome]
  rw [Program.isOwnSource, Bool.and_eq_true, Bool.and_eq_true, hbelow, Bool.not_eq_true',
    Bool.not_eq_true', List.any_eq_false, ← Bool.not_eq_true, List.isSuffixOf_iff_suffix]
  simp only [has_iff_isInfix]
  constructor
  · rintro ⟨⟨hproject, hsource⟩, hinside, hproper⟩
    exact ⟨hinside, hproper, hsource, hproject⟩
  · rintro ⟨hinside, hproper, hsource, hproject⟩
    exact ⟨⟨hproject, hsource⟩, hinside, hproper⟩

/-- The program is that of some messages and some loaded files. -/
def Listed (directory : Text) (program : Program) : Prop :=
  ∃ lines loaded, Program.ofLines directory lines loaded = .ok program

/-- The normalized paths of loaded files that are sources of the project. -/
def ownFiles (directory root : Text) (loaded : List Text) : Set Text :=
  {path | (∃ file ∈ loaded, Path.normalize directory file = path) ∧ Own root path}

/-- A path behind one slash that has a name. -/
def Named (path : Text) : Prop := lead path = ['/'] ∧ path ≠ ['/']

theorem length_own_eq_ncard {root : Text} (hroot : Rooted root) {lines loaded : List Text}
    {program : Program} (h : Program.ofLines directory lines loaded = .ok program)
    (hnamed : ∀ file ∈ loaded, Named (Path.normalize directory file)) :
    (program.files.filter (Program.isOwnSource root)).length =
      (ownFiles directory root loaded).ncard := by
  rw [ofLines_eq] at h
  obtain ⟨diagnostics, -, rfl⟩ := exists_of_map_eq_ok h
  set own := ((loaded.map (Path.normalize directory)).eraseDups).filter
    (Program.isOwnSource root)
  have hnodup : own.Nodup := (nodup_eraseDups _).filter _
  have hfiles : ownFiles directory root loaded = {path | path ∈ own} := by
    ext path
    simp only [own, ownFiles, Set.mem_ofPred_eq, List.mem_filter, List.mem_eraseDups, List.mem_map]
    refine and_congr_right ?_
    rintro ⟨file, hfile, rfl⟩
    obtain ⟨hlead, hne⟩ := hnamed file hfile
    exact (isOwnSource_iff hroot ⟨clean_normalize directory file, hlead⟩ hne).symm
  rw [hfiles, ← List.coe_toFinset, Set.ncard_coe_finset, List.toFinset_card_of_nodup hnodup]

section

variable {p : Project σ} {disk : Disk}

theorem filesChecked_of_report {errors : List Record} {start : Number} {checked : Nat}
    {s : Session σ} {report : Report}
    (h : (outcome (p.report errors start checked) s).1 = .ok report) :
    report.metrics.map (·.filesChecked) =
      if p.collectMetrics then some (checked : Int) else none := by
  rw [outcome_report] at h
  split at h
  · next hfigures =>
      split at h
      · obtain rfl := Except.ok.inj h
        rw [if_pos hfigures]
        rfl
      · cases h
  · next hfigures =>
      obtain rfl := Except.ok.inj h
      rw [if_neg hfigures]
      rfl

theorem exists_report_iff {errors : List Record} {start : Number} {checked : Nat} {s : Session σ} :
    (∃ report, (outcome (p.report errors start checked) s).1 = .ok report) ↔
      (p.collectMetrics = true →
        ∃ millis, start.elapsedMillis (p.tools.tick s.world).1 = .ok millis) := by
  rw [outcome_report]
  cases p.collectMetrics with
  | false => simp
  | true => cases start.elapsedMillis (p.tools.tick s.world).1 <;> simp

theorem outcome_checkAll {s s' : Session σ} {b : Build} {errors : List Record}
    (hprogram : outcome (p.program disk) { s with world := (p.tools.tick s.world).2 } = (.ok b, s'))
    (hrecords : Record.ofDiagnostics p.directory p.root b.program.diagnostics = .ok errors) :
    ∃ message, outcome (p.checkAll disk) s = outcome
      (p.report errors (p.tools.tick s.world).1
        (b.program.files.filter (Program.isOwnSource p.root)).length)
      (s'.log .checker message) := by
  constructor
  unfold Project.checkAll
  rw [outcome_bind, outcome_ask]
  dsimp only
  rw [outcome_bind_of_ok hprogram, outcome_bind, outcome_lift, hrecords]
  dsimp only
  rw [outcome_bind, outcome_modify]

theorem checkAll_of_listing (hroot : Rooted p.root) {s s' : Session σ} {b : Build}
    (hprogram : outcome (p.program disk) { s with world := (p.tools.tick s.world).2 } = (.ok b, s'))
    {lines loaded : List Text}
    (hlisting : Program.ofLines p.directory lines loaded = .ok b.program) :
    ((∃ report, (outcome (p.checkAll disk) s).1 = .ok report) ↔
      (p.collectMetrics = true → ∃ millis,
        (p.tools.tick s.world).1.elapsedMillis (p.tools.tick s'.world).1 = .ok millis)) ∧
    ((∀ file ∈ loaded, Named (Path.normalize p.directory file)) →
      ∀ report, (outcome (p.checkAll disk) s).1 = .ok report →
        report.metrics.map (·.filesChecked) =
          if p.collectMetrics then some ((ownFiles p.directory p.root loaded).ncard : Int)
          else none) := by
  have hrecords := ofDiagnostics_of_regular (regular_program hlisting).1 p.directory p.root
  obtain ⟨message, hcheck⟩ := outcome_checkAll hprogram hrecords
  rw [hcheck]
  refine ⟨exists_report_iff, fun hnamed report hreport => ?_⟩
  rw [filesChecked_of_report hreport, length_own_eq_ncard hroot hlisting hnamed]

end

/-- A path below a directory beside the root, the name of which goes on where that of the root
ends. -/
def Beside (root path : Text) : Prop :=
  ∃ front name more rest, more ≠ [] ∧ names root = front ++ [name] ∧
    names path = front ++ (name ++ more) :: rest

theorem not_own_of_beside {root path : Text} (h : Beside root path) : ¬ Own root path := by
  obtain ⟨front, name, more, rest, hmore, hroot, hpath⟩ := h
  intro hown
  have hbelow := hown.below
  rw [hroot, hpath, List.prefix_append_right_inj, List.cons_prefix_cons] at hbelow
  exact hmore (List.self_eq_append_right.mp hbelow.1)

/-- After every run of a session, the program that it has for a check of the whole project comes
from a listing, and the check counts the sources of the project among the files of that listing:
those below the root, each once, and none in a directory beside it. -/
theorem filesChecked_checkAll {p : Project σ} (hroot : Rooted p.root) {disk : Disk} {world : σ}
    {events : List (Event σ)} {st : State σ} (hst : run p (start disk world) events = st)
    {b : Build} {s : Session σ} (hprogram : outcome (p.program st.disk)
      { st.session with world := (p.tools.tick st.session.world).2 } = (.ok b, s)) :
    Listed p.directory b.program ∧
    ((∃ report, (outcome (p.checkAll st.disk) st.session).1 = .ok report) ↔
      (p.collectMetrics = true → ∃ millis,
        (p.tools.tick st.session.world).1.elapsedMillis (p.tools.tick s.world).1 = .ok millis)) ∧
    ∀ lines loaded, Program.ofLines p.directory lines loaded = .ok b.program →
      (∀ file ∈ loaded, Named (Path.normalize p.directory file)) →
      (∀ report, (outcome (p.checkAll st.disk) st.session).1 = .ok report →
        report.metrics.map (·.filesChecked) =
          if p.collectMetrics then some ((ownFiles p.directory p.root loaded).ncard : Int)
          else none) ∧
      ∀ path ∈ ownFiles p.directory p.root loaded, ¬ Beside p.root path := by
  have hstored := forall_run (P := Listed p.directory)
    (fun lines loaded _ h => ⟨lines, loaded, h⟩) disk world events
  rw [hst] at hstored
  have hyields := program_yields p st.disk
    { st.session with world := (p.tools.tick st.session.world).2 }
  rw [hprogram] at hyields
  obtain ⟨lines, loaded, hlisting⟩ : Listed p.directory b.program :=
    (forall_of_yields (fun lines loaded _ h => ⟨lines, loaded, h⟩) hyields hstored).1 b rfl
  refine ⟨⟨lines, loaded, hlisting⟩, (checkAll_of_listing hroot hprogram hlisting).1, ?_⟩
  intro lines' loaded' hlisting' hnamed
  refine ⟨(checkAll_of_listing hroot hprogram hlisting').2 hnamed, ?_⟩
  rintro path ⟨-, hown⟩ hbeside
  exact not_own_of_beside hbeside hown

/-- A file below `/a`, loaded by two names, a file of declarations, and one below `/ab`. -/
def loadedFiles : List Text := ["/a/x.py", "../a/x.py", "/a/x.pyi", "/ab/y.py"]

def loading : Tools Unit where
  directory := ['/', 'a', 'b']
  discover _ _ _ w := (.ok [], w)
  build _ w := (.finished [] loadedFiles, w)
  tick w := (.whole 0, w)
  versionControl _ _ w := (.missing, w)

def inA : Project Unit where
  config := { root := ['/', 'a'], compilerConfig := ['/', 'a', '/', 'm'], settings := {} }
  options := {}
  noCache := false
  collectMetrics := true
  tools := loading

theorem filesChecked_checkAll_inA :
    Rooted inA.root ∧ (∃ b s, outcome (inA.program ⟨[]⟩) { world := () } = (.ok b, s)) ∧
      (∀ file ∈ loadedFiles, Named (Path.normalize inA.directory file)) ∧
      (ownFiles inA.directory inA.root loadedFiles).ncard = 1 := by
  have hroot : Rooted inA.root := ⟨rfl, rfl⟩
  have hnamed : ∀ file ∈ loadedFiles, Named (Path.normalize inA.directory file) := by
    unfold Named
    decide +kernel
  obtain ⟨b, s, hprogram, hlisting⟩ : ∃ b s,
      outcome (inA.program ⟨[]⟩) { world := () } = (.ok b, s) ∧
      Program.ofLines inA.directory [] loadedFiles = .ok b.program := ⟨_, _, rfl, rfl⟩
  obtain ⟨report, hreport⟩ : ∃ report,
      (outcome (inA.checkAll ⟨[]⟩) { world := () }).1 = .ok report := ⟨_, rfl⟩
  have hcount : report.metrics.map (·.filesChecked) = some 1 := by
    obtain rfl := Except.ok.inj hreport
    decide +kernel
  obtain ⟨-, -, hchecked⟩ := filesChecked_checkAll hroot (run_nil inA (start ⟨[]⟩ ())) hprogram
  have hfiles := (hchecked [] loadedFiles hlisting hnamed).1 report hreport
  rw [hcount] at hfiles
  refine ⟨hroot, ⟨b, s, hprogram⟩, hnamed, ?_⟩
  simpa [inA] using hfiles.symm

end Recheck.Proofs.OwnSources
