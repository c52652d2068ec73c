import Recheck.Proofs.Paths
import Recheck.Proofs.SessionRuns

/-!
The program of a disk. Tools that can be depended on make the same program of a disk whenever it
is asked for, and a session whose snapshots say what the disk says gives that program.
-/

namespace Recheck.Proofs.DiskPrograms

open Recheck.Proofs.Activities
open Recheck.Proofs.Distinct
open Recheck.Proofs.Programs
open Recheck.Proofs.Queries
open Recheck.Proofs.SessionRuns
open Recheck.Proofs.Snapshots

variable {σ : Type} {directory : Text}

/-- What a session relies on when it takes answers of the tools for final. -/
structure Dependable (tools : Tools σ) : Prop where
  /-- What is found depends on the disk alone. -/
  discover : ∀ disk targets allowEmpty w w',
    (tools.discover disk targets allowEmpty w).1 = (tools.discover disk targets allowEmpty w').1
  /-- Among files nothing but these files is found, under the paths that they are given by. -/
  again : ∀ disk paths w found, (∀ path ∈ paths, disk.isFile path = true) →
    (tools.discover disk paths false w).1 = .ok found →
      ∀ source ∈ found, ∀ path, source.path = some path → path ∈ paths
  /-- What comes of a build depends on the sources alone. -/
  build : ∀ sources w w', (tools.build sources w).1 = (tools.build sources w').1
  clock : Clocked tools

/-- The source files of a project depend on the disk alone. -/
def FindsByDisk (tools : Tools σ) : Prop :=
  ∀ disk targets w w',
    (tools.discover disk targets true w).1 = (tools.discover disk targets true w').1

/-- A source apart from the text of its file. -/
def apart (directory : Text) (source : Source) : Source :=
  withText directory (fun _ => none) source

/-- Two programs with the same diagnostics and, in some order, the same files. -/
def Alike (program program' : Program) : Prop :=
  program.diagnostics = program'.diagnostics ∧ program.files.Perm program'.files

theorem about_alike {program program' : Program} (h : Alike program program') (path : Text) :
    program.about directory path = program'.about directory path := by
  have hcontains : ∀ path, program.files.contains path = program'.files.contains path := by
    intro path
    simp [h.2.mem_iff]
  simp only [Program.about, hcontains, h.1]

theorem fileRecords_alike {program program' : Program} (h : Alike program program')
    (p : Project σ) (path : Text) : p.fileRecords program path = p.fileRecords program' path := by
  simp only [Project.fileRecords, Program.syntacticErrors, Program.semanticErrors, about_alike h]

theorem collected_alike {program program' : Program} (h : Alike program program')
    (p : Project σ) (paths : List Text) :
    collected p program paths = collected p program' paths := by
  induction paths with
  | nil => rfl
  | cons path paths ih => simp only [collected, fileRecords_alike h, ih]

theorem verdict_alike {program program' : Program} (h : Alike program program') (p : Project σ)
    (disk : Disk) (request : Request) :
    verdict p disk request program = verdict p disk request program' := by
  have hown : (program.files.filter (Program.isOwnSource p.root)).length =
      (program'.files.filter (Program.isOwnSource p.root)).length :=
    (h.2.filter _).length_eq
  simp only [verdict, h.1, hown, fileRecords_alike h, collected_alike h]

theorem ofLines_eq (lines paths : List Text) :
    Program.ofLines directory lines paths =
      (Diagnostic.ofLines directory lines).map fun diagnostics =>
      { diagnostics, files := (paths.map (Path.normalize directory)).eraseDups } := by
  unfold Program.ofLines
  cases Diagnostic.ofLines directory lines <;> rfl

theorem ofLines_alike {lines paths paths' : List Text} {program : Program}
    (h : Program.ofLines directory lines paths = .ok program)
    (hsame : ∀ path, path ∈ paths ↔ path ∈ paths') :
    ∃ program', Program.ofLines directory lines paths' = .ok program' ∧ Alike program program' := by
  rw [ofLines_eq] at h ⊢
  cases hlines : Diagnostic.ofLines directory lines with
  | error failure => simp [hlines, Except.map] at h
  | ok diagnostics =>
      rw [hlines] at h
      obtain rfl := Except.ok.inj h
      refine ⟨_, rfl, rfl, ?_⟩
      rw [List.perm_ext_iff_of_nodup (nodup_eraseDups _) (nodup_eraseDups _)]
      simp [List.mem_eraseDups, hsame]

theorem programOf_alike {paths paths' : List Text} {built : BuildOutcome} {program : Program}
    (h : programOf directory paths built = .ok program)
    (hsame : ∀ path, path ∈ paths ↔ path ∈ paths') :
    ∃ program', programOf directory paths' built = .ok program' ∧ Alike program program' := by
  cases built with
  | finished lines loaded => exact ofLines_alike h (by simp [hsame])
  | blocked lines module => exact ofLines_alike h hsame
  | failed failure => simp [programOf] at h

/-- The program that a disk gives when every source is built with the text that the disk has. -/
def programOn (p : Project σ) (disk : Disk) (w : σ) : Except Failure Program := do
  let paths ← rootsAt p disk w
  let found ← sourcesAt p disk paths w
  programOf p.directory paths (p.tools.build (found.map (withText p.directory disk.text?)) w).1

/-- An answer to asking for the program is, in its failure or in its program, like another. -/
def Agrees : Except Failure Build → Except Failure Program → Prop
  | .error failure, .error failure' => failure = failure'
  | .ok b, .ok program => Alike b.program program
  | _, _ => False

theorem rootsAt_of_search {p : Project σ} (h : FindsByDisk p.tools) (disk : Disk) (w w' : σ) :
    rootsAt p disk w = rootsAt p disk w' := by
  simp only [rootsAt, h disk _ w w']

theorem rootsAt_world {p : Project σ} (htools : Dependable p.tools) (disk : Disk) (w w' : σ) :
    rootsAt p disk w = rootsAt p disk w' :=
  rootsAt_of_search (fun disk targets => htools.discover disk targets true) disk w w'

theorem sourcesAt_world {p : Project σ} (htools : Dependable p.tools) (disk : Disk)
    (paths : List Text) (w w' : σ) : sourcesAt p disk paths w = sourcesAt p disk paths w' := by
  simp only [sourcesAt, htools.discover disk paths false w w']

theorem clean_of_mem_roots {p : Project σ} {disk : Disk} {w : σ} {paths : List Text}
    (h : rootsAt p disk w = .ok paths) {path : Text} (hpath : path ∈ paths) :
    Path.clean path = path := by
  unfold rootsAt at h
  cases hfound : (p.tools.discover disk (p.options.targets p.root) true w).1 with
  | error reason => simp [hfound] at h
  | ok found =>
      obtain rfl : files p.directory found = paths := by simpa [hfound] using h
      rw [files_eq, List.mem_map] at hpath
      obtain ⟨original, -, rfl⟩ := hpath
      exact Paths.clean_normalize p.directory original

theorem fileOf_mem_roots {p : Project σ} (htools : Dependable p.tools) {disk : Disk} {w w' : σ}
    {paths : List Text} (hroots : rootsAt p disk w = .ok paths)
    (hreadable : ∀ path ∈ paths, ∃ content, disk.text? path = some content)
    {found : List Source} (hfound : sourcesAt p disk paths w' = .ok found) :
    ∀ source ∈ found, ∀ file, fileOf p.directory source = some file → file ∈ paths := by
  intro source hsource file hfile
  have hisFile : ∀ path ∈ paths, disk.isFile path = true := by
    intro path hpath
    obtain ⟨content, htext⟩ := hreadable path hpath
    exact isFile_of_text? htext
  have hdiscover : (p.tools.discover disk paths false w').1 = .ok found := by
    unfold sourcesAt at hfound
    split at hfound
    · cases hfound
    · next heq => rw [heq, Except.ok.inj hfound]
  obtain ⟨path, hpath, rfl⟩ : ∃ path, source.path = some path ∧
      Path.normalize p.directory path = file := by
    obtain ⟨path, hpath, heq⟩ := Option.map_eq_some_iff.mp hfile
    exact ⟨path, (Option.filter_eq_some_iff.mp hpath).1, heq⟩
  have hmem := htools.again disk paths w' found hisFile hdiscover source hsource path hpath
  rwa [Paths.normalize_of_clean (clean_of_mem_roots hroots hmem)]

theorem withText_congr {text text' : Text → Option Text} {source : Source}
    (h : ∀ file, fileOf directory source = some file → text file = text' file) :
    withText directory text source = withText directory text' source := by
  unfold withText
  cases hfile : fileOf directory source with
  | none => rfl
  | some file => simp [h file hfile]

theorem withText_withText (text text' : Text → Option Text) (source : Source) :
    withText directory text (withText directory text' source) = withText directory text source := by
  cases hfile : fileOf directory source with
  | none =>
      have hsource : withText directory text' source = source := by simp [withText, hfile]
      rw [hsource]
  | some file =>
      have hsource : withText directory text' source = { source with text := text' file } := by
        simp [withText, hfile]
      have hfile' : fileOf directory { source with text := text' file } = some file := hfile
      rw [hsource]
      simp [withText, hfile, hfile']

theorem withText_eq_self {text : Text → Option Text} {source : Source}
    (h : ∀ file, fileOf directory source = some file → source.text = text file) :
    withText directory text source = source := by
  unfold withText
  cases hfile : fileOf directory source with
  | none => rfl
  | some file =>
      change { source with text := text file } = source
      rw [← h file hfile]

theorem sources_eq {b : Build} {disk : Disk} {paths : List Text} {found : List Source}
    (htexts : ∀ path ∈ paths, BuiltWith directory b path (disk.text? path))
    (hfiles : ∀ source ∈ found, ∀ file, fileOf directory source = some file → file ∈ paths)
    (hsources : found.map (apart directory) = b.sources.map (apart directory)) :
    found.map (withText directory disk.text?) = b.sources := by
  have hapart : ∀ sources : List Source,
      (sources.map (apart directory)).map (withText directory disk.text?) =
        sources.map (withText directory disk.text?) := by
    simp [apart, withText_withText]
  calc found.map (withText directory disk.text?)
    _ = (b.sources.map (apart directory)).map (withText directory disk.text?) := by
      rw [← hapart, hsources]
    _ = b.sources.map id := by
      rw [hapart]
      refine List.map_congr_left fun source hsource => withText_eq_self fun file hfile => ?_
      have hmem : apart directory source ∈ found.map (apart directory) :=
        hsources ▸ List.mem_map_of_mem hsource
      obtain ⟨original, horiginal, heq⟩ := List.mem_map.mp hmem
      have hsame : fileOf directory original = fileOf directory source := by
        rw [← fileOf_withText (fun _ => none) original, ← fileOf_withText (fun _ => none) source]
        exact congrArg (fileOf directory) heq
      exact htexts file (hfiles original horiginal file (hsame.trans hfile)) source hsource hfile
    _ = b.sources := List.map_id _

/-- Snapshots of source files say what the disk says. -/
def Current (disk : Disk) (paths : List Text) (s : Session σ) : Prop :=
  ∀ path ∈ paths, ∀ snapshot, s.store.get? path = some snapshot →
    disk.text? path = some snapshot.content

theorem known_readWith {disk : Disk} {paths : List Text} {s : Session σ}
    (h : Current disk paths s) {path : Text} (hpath : path ∈ paths) :
    (readWith disk paths s path).map (·.content) = disk.text? path := by
  rw [readWith_of_mem hpath]
  cases hget : s.store.get? path with
  | some snapshot => simp [h path hpath snapshot hget]
  | none => simp [first, Function.comp_def]

theorem map_withText_known {disk : Disk} {paths : List Text} {found : List Source}
    {s s' : Session σ} (hcurrent : Current disk paths s)
    (hfiles : ∀ source ∈ found, ∀ file, fileOf directory source = some file → file ∈ paths)
    (hget : ∀ q, s'.store.get? q =
      (prunedTo disk paths s q).or (if q ∈ files directory found then first disk q else none)) :
    found.map (withText directory (known s'.store)) =
      found.map (withText directory disk.text?) := by
  refine List.map_congr_left fun source hsource => withText_congr fun file hfile => ?_
  have hmem := hfiles source hsource file hfile
  have htext := known_readWith hcurrent hmem
  rw [known, hget, prunedTo_of_mem hmem]
  cases hread : readWith disk paths s file with
  | some snapshot => rw [Option.some_or, ← hread, htext]
  | none =>
      have hnone : disk.text? file = none := by simpa [hread] using htext.symm
      simp [first, hnone]

/-- A program is built from the sources and the texts that a disk has. -/
structure Matches (p : Project σ) (disk : Disk) (paths : List Text) (b : Build) : Prop where
  made : Made p b
  texts : ∀ path ∈ paths, BuiltWith p.directory b path (disk.text? path)
  sources : ∃ found w, sourcesAt p disk paths w = .ok found ∧
    found.map (apart p.directory) = b.sources.map (apart p.directory)

theorem programOf_of_made {p : Project σ} (htools : Dependable p.tools) {b : Build} (h : Made p b) :
    ∃ paths w, (∀ path, path ∈ paths ↔ path ∈ roots b) ∧
      programOf p.directory paths (p.tools.build b.sources w).1 = .ok b.program := by
  obtain ⟨disk, s, s', hends, hother⟩ := h
  cases hends with
  | reused hroots hstored => exact absurd hstored hother
  | @built paths paths' w w' w'' found b s' hroots hstale hroots' hfound hget hsources hprogram
      hversions =>
      rw [rootsAt_world htools disk w s.world, hroots] at hroots'
      obtain rfl := Except.ok.inj hroots'
      exact ⟨paths, w'', fun path => (mem_roots_versionsAt hversions path).symm, hprogram⟩

theorem programOn_eq {p : Project σ} {disk : Disk} {w : σ} {paths : List Text}
    {found : List Source} (hroots : rootsAt p disk w = .ok paths)
    (hfound : sourcesAt p disk paths w = .ok found) :
    programOn p disk w =
      programOf p.directory paths
        (p.tools.build (found.map (withText p.directory disk.text?)) w).1 := by
  simp only [programOn, hroots, hfound, bind, Except.bind]

/-- Asking for the program gives the program of the disk, or fails like it. -/
theorem ends_agrees {p : Project σ} (htools : Dependable p.tools) {disk : Disk}
    {s s' : Session σ} {answer : Except Failure Build} (h : Ends p disk s (answer, s')) (w : σ)
    (hreadable : ∀ paths, rootsAt p disk s.world = .ok paths →
      ∀ path ∈ paths, ∃ content, disk.text? path = some content)
    (hcurrent : ∀ paths, rootsAt p disk s.world = .ok paths → Current disk paths s)
    (hmatches : ∀ b paths, s.build = some b → answer = .ok b →
      rootsAt p disk s.world = .ok paths → Matches p disk paths b) :
    Agrees answer (programOn p disk w) := by
  have hworld := rootsAt_world htools disk w s.world
  -- On one disk the source files that a build looks for are those whose versions were compared.
  have hsearch : ∀ {paths paths' : List Text} {found : List Source} {w₁ w₂ : σ},
      rootsAt p disk s.world = .ok paths → rootsAt p disk w₁ = .ok paths' →
      sourcesAt p disk paths' w₂ = .ok found →
      paths' = paths ∧
        (∀ source ∈ found, ∀ file, fileOf p.directory source = some file → file ∈ paths) ∧
        programOn p disk w =
          programOf p.directory paths
            (p.tools.build (found.map (withText p.directory disk.text?)) w).1 := by
    intro paths paths' found w₁ w₂ hroots hroots' hfound
    rw [rootsAt_world htools disk w₁ s.world, hroots] at hroots'
    obtain rfl := Except.ok.inj hroots'
    rw [sourcesAt_world htools disk paths w₂ w] at hfound
    exact ⟨rfl, fileOf_mem_roots htools hroots (hreadable paths hroots) hfound,
      programOn_eq (hworld.trans hroots) hfound⟩
  cases h with
  | rootless hkept hroots =>
      rw [programOn, hworld, hroots]
      rfl
  | @reused paths b s' hroots hstored hversions hget hbuild =>
      obtain ⟨hmade, htexts, found, w₂, hfound, hsources⟩ := hmatches b paths hstored rfl hroots
      obtain ⟨-, hfiles, hon⟩ := hsearch hroots hroots hfound
      obtain ⟨paths', w₃, hsame, hprogram⟩ := programOf_of_made htools hmade
      obtain ⟨program, hprogram', halike⟩ := programOf_alike hprogram
        fun path => (hsame path).trans ((mem_of_sameVersions hversions).1 path).symm
      rw [hon, sources_eq htexts hfiles hsources, htools.build b.sources w w₃, hprogram']
      exact halike
  | @unfound paths w₁ w₂ failure s' hroots hstale hfound hget hbuild =>
      rw [rootsAt_world htools disk w₁ s.world, hroots] at hfound
      change sourcesAt p disk paths w₂ = .error failure at hfound
      rw [sourcesAt_world htools disk paths w₂ w] at hfound
      simp only [programOn, hworld, hroots, hfound, bind, Except.bind]
      rfl
  | @unbuilt paths paths' w₁ w₂ w₃ found failure s' hroots hstale hroots' hfound hget hprogram
      hbuild =>
      obtain ⟨rfl, hfiles, hon⟩ := hsearch hroots hroots' hfound
      rw [hon, ← map_withText_known (hcurrent _ hroots) hfiles hget, htools.build _ w w₃, hprogram]
      rfl
  | @built paths paths' w₁ w₂ w₃ found b s' hroots hstale hroots' hfound hget hsources hprogram
      hversions hnumber hbuild =>
      obtain ⟨rfl, hfiles, hon⟩ := hsearch hroots hroots' hfound
      rw [hon, ← map_withText_known (hcurrent _ hroots) hfiles hget, ← hsources,
        htools.build _ w w₃, hprogram]
      exact ⟨rfl, .refl _⟩

end Recheck.Proofs.DiskPrograms
