import Recheck.Proofs.Faults
import Recheck.Proofs.FreshAnswers
import Recheck.Proofs.Readings

/-!
Checking a root file under its own name. A session asks its program about the path without links
that a name stands for, while the source files go by the names under which they were found; so a
root file is certain to be checked only where its name stands for itself.
-/

namespace Recheck.Proofs.RootChecks

open Recheck.Proofs.Activities
open Recheck.Proofs.DiskPrograms
open Recheck.Proofs.Faults
open Recheck.Proofs.Programs
open Recheck.Proofs.Queries
open Recheck.Proofs.Readings
open Recheck.Proofs.SessionRuns
open Recheck.Proofs.Snapshots

variable {σ : Type} {directory : Text}

/-- What a session relies on when it takes its source files for part of every program. -/
structure Reliable (tools : Tools σ) : Prop where
  /-- The source files depend on the disk alone. -/
  discover : ∀ disk targets w w',
    (tools.discover disk targets true w).1 = (tools.discover disk targets true w').1
  /-- A build has no program that it could be asked about. -/
  build : ∀ sources w absent, (tools.build sources w).1 ≠ .failed (.fault (.notInProgram absent))

/-- An answer about a file that the program does not hold. -/
def OutOfScope {α : Type} (answer : Except Failure α) : Prop :=
  ∃ absent, answer = .error (.fault (.notInProgram absent))

/-- The program holds its source files. -/
def HoldsRoots (b : Build) : Prop := ∀ path ∈ roots b, path ∈ b.program.files

theorem rootsAt_eq {p : Project σ} (htools : Reliable p.tools) (disk : Disk) (w w' : σ) :
    rootsAt p disk w = rootsAt p disk w' :=
  rootsAt_of_search htools.discover disk w w'

theorem files_of_programOf {paths : List Text} {built : BuildOutcome} {program : Program}
    (h : programOf directory paths built = .ok program) {path : Text} (hpath : path ∈ paths)
    (hclean : Path.clean path = path) : path ∈ program.files := by
  have hlisted : ∀ {lines more : List Text}, path ∈ more →
      Program.ofLines directory lines more = .ok program → path ∈ program.files := by
    intro lines more hmore hprogram
    rw [ofLines_eq] at hprogram
    cases hlines : Diagnostic.ofLines directory lines with
    | error failure => simp [hlines, Except.map] at hprogram
    | ok diagnostics =>
        rw [hlines] at hprogram
        obtain rfl := Except.ok.inj hprogram
        exact List.mem_eraseDups.mpr
          (List.mem_map.mpr ⟨path, hmore, Paths.normalize_of_clean hclean⟩)
  cases built with
  | failed failure => cases h
  | blocked lines module => exact hlisted hpath h
  | finished lines loaded => exact hlisted (List.mem_append_left _ hpath) h

theorem roots_of_versions {b : Build} {s : Session σ} {paths : List Text}
    (h : b.versions = s.versionsOf paths) (path : Text) : path ∈ roots b ↔ path ∈ paths := by
  simp [roots, h, Session.versionsOf, List.mem_eraseDups]

theorem holdsRoots_of_creates {p : Project σ} (htools : Reliable p.tools) {disk : Disk}
    {s s' read : Session σ} {w : σ} {paths : List Text} {b : Build}
    {answer : Except Failure (Program × List Source)} (hroots : rootsAt p disk w = .ok paths)
    (hcreates : Creates p disk s (answer, s')) (hanswer : answer = .ok (b.program, b.sources))
    (hversions : b.versions = read.versionsOf paths) : HoldsRoots b := by
  cases hcreates with
  | unfound hkept hfound => cases hanswer
  | @built w₁ w₂ w₃ paths' found sources s' hroots' hfound hget hsources hbuild =>
      rw [rootsAt_eq htools disk w₁ w, hroots] at hroots'
      obtain rfl := Except.ok.inj hroots'
      intro path hpath
      rw [roots_of_versions hversions] at hpath
      exact files_of_programOf (programOf_of_ok hanswer).1 hpath (clean_of_mem_roots hroots hpath)

theorem holdsRoots_program {p : Project σ} (htools : Reliable p.tools) (disk : Disk) (s : Session σ)
    {b : Build} (hb : (outcome (p.program disk) s).2.build = some b) :
    s.build = some b ∨ HoldsRoots b := by
  have hyields := program_yields p disk s
  generalize outcome (p.program disk) s = result at hyields hb
  cases hyields with
  | rootless hkept hroots => exact .inl (hkept.2.symm.trans hb)
  | reused hroots hread hstored hversions =>
      left
      rw [hread] at hb
      simpa using hb
  | failed hroots hread hstale hpruned hcreates hanswer =>
      exact .inl (build_of_pruned hread hpruned ▸ build_of_creates hcreates ▸ hb)
  | built hroots hread hstale hpruned hcreates hanswer hversions hnumber hstore hbuild =>
      right
      obtain rfl := Option.some.inj (hbuild.symm.trans hb)
      exact holdsRoots_of_creates htools hroots hcreates hanswer hversions

theorem holdsRoots_run {p : Project σ} (htools : Reliable p.tools) (disk : Disk) (world : σ)
    (events : List (Event σ)) {b : Build}
    (hb : (run p (start disk world) events).session.build = some b) : HoldsRoots b := by
  induction events using List.reverseRecOn with
  | nil => simp [start] at hb
  | append_singleton events e ih =>
      rw [run_concat] at hb
      rcases step_cases p (run p (start disk world) events) e with ⟨hbuild, -⟩ | ⟨s, hcall, hkept⟩
      · exact ih (hbuild ▸ hb)
      · rw [hkept.2] at hb
        rcases holdsRoots_program htools _ s hb with hstored | hholds
        · exact ih ((calls_grown hcall).1 ▸ hstored)
        · exact hholds

theorem mem_files_of_program {p : Project σ} (htools : Reliable p.tools) {disk : Disk}
    {s s' : Session σ} {b : Build} {paths : List Text}
    (hstored : ∀ b, s.build = some b → HoldsRoots b)
    (hprogram : outcome (p.program disk) s = (.ok b, s'))
    (hroots : rootsAt p disk s.world = .ok paths) {path : Text} (hpath : path ∈ paths) :
    path ∈ b.program.files := by
  have hyields := program_yields p disk s
  rw [hprogram] at hyields
  cases hyields with
  | @reused paths' w b s' hroots' hread hat hversions =>
      obtain rfl := Except.ok.inj (hroots'.symm.trans hroots)
      refine hstored b hat path ?_
      have hsame := (Bool.and_eq_true_iff.mp hversions).2
      have hversion : (path, s'.versionOf path) ∈ s'.versionsOf paths' :=
        List.mem_map.mpr ⟨path, List.mem_eraseDups.mpr hpath, rfl⟩
      have hmem := List.contains_iff_mem.mp (List.all_eq_true.mp hsame _ hversion)
      exact List.mem_map.mpr ⟨_, hmem, rfl⟩
  | @built paths' w answer b read pruned made s' hroots' hread hstale hpruned hcreates hanswer
      hversions hnumber hstore hbuild =>
      obtain rfl := Except.ok.inj (hroots'.symm.trans hroots)
      exact holdsRoots_of_creates htools hroots hcreates hanswer hversions path
        ((roots_of_versions hversions path).mpr hpath)

theorem kind_eq_outOfScope_iff {cause : Fault} :
    cause.kind = .outOfScope ↔ ∃ absent, cause = .notInProgram absent := by
  cases cause <;> simp [Fault.kind, Fault.notice]

theorem outOfScope_iff {α : Type} {answer : Except Failure α} :
    OutOfScope answer ↔ Raises .outOfScope answer := by
  simp only [OutOfScope, Raises, kind_eq_outOfScope_iff]
  constructor
  · rintro ⟨absent, h⟩
    exact ⟨_, h, absent, rfl⟩
  · rintro ⟨_, h, absent, rfl⟩
    exact ⟨absent, h⟩

theorem Reliable.buildsSpare {tools : Tools σ} (h : Reliable tools) :
    BuildsSpare .outOfScope tools := by
  intro sources w cause hfailed hkind
  obtain ⟨absent, rfl⟩ := kind_eq_outOfScope_iff.mp hkind
  exact h.build sources w absent hfailed

theorem refreshed_eq_ok {p : Project σ} {disk : Disk} {file : Text} {targets : List Text}
    (h : refreshed p disk (.single file) = .ok targets) :
    ∃ target, p.resolve disk file = .ok target ∧ disk.isFile target = true ∧
      targets = [target] := by
  cases hresolve : p.resolve disk file with
  | error failure => simp [refreshed, hresolve, bind, Except.bind] at h
  | ok target =>
      rw [refreshed_single hresolve] at h
      split at h
      · next hisFile => exact ⟨target, rfl, hisFile, (Except.ok.inj h).symm⟩
      · cases h

/-- A check is out of scope where the program that it asks for does not hold the file that the
name stands for. -/
theorem outOfScope_checkFile {p : Project σ} (htools : Reliable p.tools) {disk : Disk} {file : Text}
    {s : Session σ} : OutOfScope (outcome (p.checkFile disk file) s).1 ↔
      ∃ target s₁ b, p.resolve disk file = .ok target ∧ asked p disk (.single file) s = some s₁ ∧
        (outcome (p.program disk) s₁).1 = .ok b ∧
          b.program.contains p.directory target = false := by
  rw [outOfScope_iff, raises_checkFile (by decide) htools.buildsSpare]
  constructor
  · rintro ⟨target, hresolve, hanswer⟩
    split at hanswer
    · next hisFile =>
        obtain ⟨-, b, hprogram, hcontains⟩ := hanswer
        have hrefreshed : refreshed p disk (.single file) = .ok [target] := by
          rw [refreshed_single hresolve, if_pos hisFile]
        exact ⟨target, _, b, hresolve, asked_of_refreshed hrefreshed s, hprogram, hcontains⟩
    · cases hanswer
  · rintro ⟨target, s₁, b, hresolve, hasked, hprogram, hcontains⟩
    obtain ⟨targets, hrefreshed, rfl⟩ := asked_eq hasked
    obtain ⟨target', hresolve', hisFile, rfl⟩ := refreshed_eq_ok hrefreshed
    obtain rfl := Except.ok.inj (hresolve.symm.trans hresolve')
    refine ⟨target, hresolve, ?_⟩
    rw [if_pos hisFile]
    exact ⟨rfl, b, hprogram, hcontains⟩

theorem known_checkFile {p : Project σ} (htools : Reliable p.tools) {disk : Disk} {w : σ}
    {s : Session σ} {paths : List Text} {file content : Text} {report : Report}
    (hpaths : rootsAt p disk w = .ok paths) (hfile : file ∈ paths)
    (htext : disk.text? file = some content)
    (hanswer : (outcome (p.checkFile disk file) s).1 = .ok report) :
    known (outcome (p.checkFile disk file) s).2.store file =
      some (if p.resolve disk file = .ok file then content
        else settled p.noCache (known s.store file) content) := by
  have hrun : p.run disk (.single file) = p.checkFile disk file := rfl
  cases hrefreshed : refreshed p disk (.single file) with
  | error failure =>
      rw [← hrun, run_of_refreshed_error hrefreshed] at hanswer
      cases hanswer
  | ok targets =>
      obtain ⟨target, hresolve, hisFile, rfl⟩ := refreshed_eq_ok hrefreshed
      have hasked := asked_of_refreshed hrefreshed s
      have hstore := store_of_asked hasked
      rw [hrun] at hstore
      rw [outcome_checkFile hresolve hisFile] at hanswer
      set s₁ := refreshAll disk [target] { s with world := (p.tools.tick s.world).2 } with hs₁
      rcases hprogram : outcome (p.program disk) s₁ with ⟨failure | b, s'⟩
      · simp [hprogram] at hanswer
      · have hknown :=
          known_program_root hprogram ((rootsAt_eq htools disk s₁.world w).trans hpaths)
          hfile htext
        rw [hstore, hprogram, hknown]
        by_cases heq : target = file
        · subst heq
          have hread : known s₁.store target = some content := known_refresh htext false _
          rw [if_pos hresolve, hread, settled, Option.getD_some, ite_self]
        · have hsame : known s₁.store file = known s.store file :=
            known_of_get? (get?_refresh_of_ne (Ne.symm heq) disk false _)
          have hother : p.resolve disk file ≠ .ok file := by
            rw [hresolve]
            exact fun h => heq (Except.ok.inj h)
          rw [if_neg hother, hsame]

/-- Checking a root file that can be read. The check is out of scope where the name stands for
a file that the program does not hold, which is no root file then. An answered check leaves the
snapshot with the text of the file where the name stands for itself, where nothing is kept, and
where no other text was kept. -/
theorem checkFile_root {p : Project σ} (htools : Reliable p.tools) (disk : Disk) (world : σ)
    (events : List (Event σ)) {paths : List Text} {file content : Text}
    (hpaths : (outcome (p.rootFiles (run p (start disk world) events).disk)
      (run p (start disk world) events).session).1 = .ok paths) (hfile : file ∈ paths)
    (htext : (run p (start disk world) events).disk.text? file = some content) :
    let st := run p (start disk world) events
    let checked := outcome (p.checkFile st.disk file) st.session
    (OutOfScope checked.1 ↔ ∃ target s b, p.resolve st.disk file = .ok target ∧
        asked p st.disk (.single file) st.session = some s ∧
        (outcome (p.program st.disk) s).1 = .ok b ∧ b.program.contains p.directory target = false) ∧
      (∀ target ∈ paths, p.resolve st.disk file = .ok target → ¬ OutOfScope checked.1) ∧
      ∀ report, checked.1 = .ok report →
        (known checked.2.store file = some content ↔
          p.resolve st.disk file = .ok file ∨ p.noCache = true ∨
            ∀ text, known st.session.store file = some text → text = content) := by
  intro st checked
  rw [outcome_rootFiles_fst] at hpaths
  refine ⟨outOfScope_checkFile htools, ?_, fun report hreport => ?_⟩
  · rintro target htarget hresolve houtside
    obtain ⟨target', s, b, hresolve', hasked, hprogram, hcontains⟩ :=
      (outOfScope_checkFile htools).mp houtside
    obtain rfl := Except.ok.inj (hresolve.symm.trans hresolve')
    obtain ⟨targets, -, hs⟩ := asked_eq hasked
    have hstored : ∀ b, s.build = some b → HoldsRoots b := by
      intro b hb
      rw [hs, refreshAll_build] at hb
      exact holdsRoots_run htools disk world events hb
    have hroots := (rootsAt_eq htools st.disk s.world st.session.world).trans hpaths
    rcases hout : outcome (p.program st.disk) s with ⟨answer, s'⟩
    obtain rfl : answer = .ok b := by rw [← hprogram, hout]
    have hmem := mem_files_of_program htools hstored hout hroots htarget
    rw [contains_of_mem hmem (clean_of_mem_roots hpaths htarget)] at hcontains
    cases hcontains
  · rw [known_checkFile htools hpaths hfile htext hreport, Option.some.injEq]
    by_cases hresolve : p.resolve st.disk file = .ok file
    · exact iff_of_true (if_pos hresolve) (.inl hresolve)
    · rw [if_neg hresolve, settled]
      cases hknown : known st.session.store file with
      | none => simp
      | some text => cases p.noCache <;> simp [hresolve]

open FreshAnswers (project steady dependable_steady)

theorem exists_of_foldlM_error {α β ε : Type} {f : β → α → Except ε β} {items : List α} {b : β}
    {e : ε} (h : items.foldlM f b = .error e) : ∃ b' a, f b' a = .error e := by
  induction items generalizing b with
  | nil => cases h
  | cons a items ih =>
      rw [List.foldlM_cons] at h
      cases hstep : f b a with
      | ok b' => exact ih (by rwa [hstep] at h)
      | error e' =>
          rw [hstep] at h
          exact ⟨b, a, hstep.trans h⟩

theorem readLine_ne_failed_fault {source : Source} {progress : Rehearsal.Progress} {line : Text}
    (cause : Fault) :
    Rehearsal.readLine source progress line ≠ .error (.failed (.fault cause)) := by
  intro h
  unfold Rehearsal.readLine at h
  repeat' split at h
  all_goals cases h

theorem build_ne_fault (script : Rehearsal.CompilerScript) (sources : List Source)
    (w : Rehearsal.World) (cause : Fault) :
    (Rehearsal.build script sources w).1 ≠ .failed (.fault cause) := by
  unfold Rehearsal.build
  cases hread : sources.foldlM Rehearsal.readSource {} with
  | ok progress => simp
  | error outcome =>
      rintro rfl
      obtain ⟨progress, source, hsource⟩ := exists_of_foldlM_error hread
      obtain ⟨progress', line, hline⟩ := exists_of_foldlM_error hsource
      exact readLine_ne_failed_fault _ hline

theorem reliable_steady : Reliable steady where
  discover disk targets w w' := dependable_steady.discover disk targets true w w'
  build sources w absent := build_ne_fault {} sources w (.notInProgram absent)

theorem buildsSpare_steady (kind : FaultKind) : BuildsSpare kind steady :=
  fun sources w cause hfailed => absurd hfailed (build_ne_fault {} sources w cause)

/-- A project with two files, one of which may be a link. -/
def pair : Project Rehearsal.World := project [['a', '.', 'p', 'y'], ['l', '.', 'p', 'y']]

/-- A disk on which `l.py` is a link to another source file or to a file that is none. -/
def linkedTo (target : Text) (text : Text) : Disk :=
  ⟨[(['a', '.', 'p', 'y'], .file (Text.toBytes text) 0), (['d'], .file (Text.toBytes text) 0),
    (['l', '.', 'p', 'y'], .link target)]⟩

def aFile : Text := ['/', 'a', '.', 'p', 'y']

def lFile : Text := ['/', 'l', '.', 'p', 'y']

theorem roots_pair (w : Rehearsal.World) (text : Text) :
    rootsAt pair (linkedTo ['d'] text) w = .ok [aFile, lFile] ∧
      rootsAt pair (linkedTo ['a', '.', 'p', 'y'] text) w = .ok [aFile, lFile] := by
  rw [rootsAt_eq reliable_steady _ w {}, rootsAt_eq reliable_steady _ w {}]
  exact ⟨rfl, rfl⟩

/-- The session that has built its program before the file changed to which the link leads. -/
def edited : State Rehearsal.World :=
  run pair (start (linkedTo ['a', '.', 'p', 'y'] []) {})
    [.query .whole, .edit (linkedTo ['a', '.', 'p', 'y'] ['x']) {}]

theorem checkFile_root_edited :
    (outcome (pair.rootFiles edited.disk) edited.session).1 = .ok [aFile, lFile] ∧
      edited.disk.text? aFile = some ['x'] ∧
      ¬ OutOfScope (outcome (pair.checkFile edited.disk aFile) edited.session).1 ∧
      ∀ report, (outcome (pair.checkFile edited.disk aFile) edited.session).1 = .ok report →
        known (outcome (pair.checkFile edited.disk aFile) edited.session).2.store aFile =
          some ['x'] := by
  have hroots : (outcome (pair.rootFiles edited.disk) edited.session).1 = .ok [aFile, lFile] := by
    rw [outcome_rootFiles_fst]
    exact (roots_pair _ _).2
  have hresolve : pair.resolve edited.disk aFile = .ok aFile := by decide +kernel
  have htext : edited.disk.text? aFile = some ['x'] := by decide +kernel
  obtain ⟨-, hscope, hknown⟩ := checkFile_root (p := pair) reliable_steady
    (linkedTo ['a', '.', 'p', 'y'] []) {}
    [.query .whole, .edit (linkedTo ['a', '.', 'p', 'y'] ['x']) {}] hroots List.mem_cons_self htext
  exact ⟨hroots, htext, hscope aFile List.mem_cons_self hresolve,
    fun report hreport => (hknown report hreport).mpr (.inl hresolve)⟩

/-- A source file that is a link to no source file is out of scope, and one that is a link to
a source file is answered for while its snapshot keeps an old text. -/
theorem not_checked_linked :
    (∃ paths, (outcome (pair.rootFiles (linkedTo ['d'] [])) { world := {} }).1 = .ok paths ∧
      lFile ∈ paths ∧ (linkedTo ['d'] []).text? lFile = some [] ∧
      OutOfScope (outcome (pair.checkFile (linkedTo ['d'] []) lFile) { world := {} }).1) ∧
    ∃ paths report, (outcome (pair.rootFiles edited.disk) edited.session).1 = .ok paths ∧
      lFile ∈ paths ∧ edited.disk.text? lFile = some ['x'] ∧
      (outcome (pair.checkFile edited.disk lFile) edited.session).1 = .ok report ∧
      known (outcome (pair.checkFile edited.disk lFile) edited.session).2.store lFile =
        some [] := by
  have houtside : (outcome (pair.checkFile (linkedTo ['d'] []) lFile) { world := {} }).1 =
      .error (.fault (.notInProgram ['/', 'd'])) := by decide +kernel
  have hanswer :
      (outcome (pair.checkFile edited.disk lFile) edited.session).1.toOption.isSome = true := by
    decide +kernel
  obtain ⟨report, hreport⟩ : ∃ report,
      (outcome (pair.checkFile edited.disk lFile) edited.session).1 = .ok report := by
    cases h : (outcome (pair.checkFile edited.disk lFile) edited.session).1 with
    | error failure => simp [h, Except.toOption] at hanswer
    | ok report => exact ⟨report, rfl⟩
  refine ⟨⟨[aFile, lFile], ?_, by simp, by decide +kernel, ['/', 'd'], houtside⟩,
    [aFile, lFile], report, ?_, by simp, by decide +kernel, hreport, by decide +kernel⟩
  · rw [outcome_rootFiles_fst]
    exact (roots_pair _ _).1
  · rw [outcome_rootFiles_fst]
    exact (roots_pair _ _).2

end Recheck.Proofs.RootChecks
