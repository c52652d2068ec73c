import Recheck.Proofs.SessionRuns

/-!
When the program at hand may be given out again. Only versions are compared, and a path without
a snapshot counts like one with a first snapshot; so the program is certain to have the texts of
the snapshots only where its source files had snapshots ever since it was built.
-/

namespace Recheck.Proofs.ProgramReuse

open Recheck.Proofs.Activities
open Recheck.Proofs.Programs
open Recheck.Proofs.Queries
open Recheck.Proofs.SessionRuns
open Recheck.Proofs.Snapshots

variable {σ : Type}

/-- A program was built from some source files, with the texts that a store has for them. -/
def UpToDate (directory : Text) (b : Build) (paths : List Text) (store : SnapshotStore) : Prop :=
  (∀ path, path ∈ files directory b.sources ↔ path ∈ paths) ∧
    ∀ path ∈ paths, BuiltWith directory b path (known store path)

/-- The search for the sources of a program found its source files. -/
def FoundRoots (directory : Text) (b : Build) : Prop :=
  ∀ path, path ∈ files directory b.sources ↔ path ∈ roots b

theorem reused_cases {p : Project σ} (hcached : p.noCache = false) {disk : Disk}
    {s s' : Session σ} {b : Build} {paths : List Text} (hstored : s.build = some b)
    (hprogram : outcome (p.program disk) s = (.ok b, s'))
    (hpaths : rootsAt p disk s.world = .ok paths) :
    (∀ q, s'.store.get? q = readWith disk paths s q) ∧
      (∀ path, path ∈ paths ↔ path ∈ roots b) ∧
      ∀ path ∈ paths,
        (path, ((readWith disk paths s path).map (·.version)).getD 0) ∈ b.versions := by
  have hends := program_ends hcached disk s
  rw [hprogram] at hends
  cases hends with
  | reused hroots hstored' hversions hget hbuild =>
      obtain rfl := Except.ok.inj (hroots.symm.trans hpaths)
      exact ⟨hget, mem_of_sameVersions hversions⟩
  | built hroots hstale hroots' hfound hget hsources hprogram hversions hnumber hbuild =>
      simp [hstored] at hnumber

theorem builtWith_of_follows {p : Project σ} {b : Build} (hmade : Made p b) {disk : Disk}
    {paths : List Text} {s s' : Session σ} {path : Text}
    (hfollows : Follows p.directory b s.store path)
    (hget : s'.store.get? path = readWith disk paths s path)
    (hversion : (path, ((readWith disk paths s path).map (·.version)).getD 0) ∈ b.versions) :
    BuiltWith p.directory b path (known s'.store path) := by
  obtain ⟨v, snapshot, hv, hsnapshot, -, htext⟩ := hfollows
  rw [readWith_of_get? hsnapshot] at hget hversion
  have hknown : known s'.store path = some snapshot.content := by simp [known, hget]
  rw [hknown]
  exact htext (hmade.unique hversion hv)

/-- A program that is given out again was built with the text of each source file that had
snapshots ever since. -/
theorem absentSince_or_builtWith {p : Project σ} (hcached : p.noCache = false) (disk : Disk)
    (world : σ) (events : List (Event σ)) {e : Event σ} {s s' : Session σ} {b : Build}
    {paths : List Text} (hcall : calls p (run p (start disk world) events) e = some s)
    (hstored : s.build = some b)
    (hprogram : outcome (p.program (run p (start disk world) events).disk) s = (.ok b, s'))
    (hpaths : rootsAt p (run p (start disk world) events).disk s.world = .ok paths) {path : Text}
    (hpath : path ∈ paths) :
    AbsentSince p (start disk world) events b path ∨
      BuiltWith p.directory b path (known s'.store path) := by
  obtain ⟨hbuild, hgrows⟩ := calls_grown hcall
  have hb := hbuild.symm.trans hstored
  obtain ⟨hget, hmem, hversions⟩ := reused_cases hcached hstored hprogram hpaths
  rcases absentSince_or_follows hcached disk world events hb path ((hmem path).mp hpath) with
    habsent | hfollows
  · exact .inl habsent
  · exact .inr (builtWith_of_follows (made_run hcached disk world events hb)
      (hfollows.mono (hgrows path)) (hget path) (hversions path hpath))

theorem program_cases {p : Project σ} (hcached : p.noCache = false) {disk : Disk}
    {s s' : Session σ} {b : Build} {paths : List Text}
    (hprogram : outcome (p.program disk) s = (.ok b, s'))
    (hpaths : rootsAt p disk s.world = .ok paths) :
    s'.build = some b ∧ (∀ path, path ∈ paths ↔ path ∈ roots b) ∧
      (∀ path ∈ paths, ∀ snapshot, s.store.get? path = some snapshot →
        s'.store.get? path = some snapshot) ∧
      (s.build = some b ∨ ∀ path, BuiltWith p.directory b path (known s'.store path)) := by
  have hends := program_ends hcached disk s
  rw [hprogram] at hends
  cases hends with
  | reused hroots hstored hversions hget hbuild =>
      obtain rfl := Except.ok.inj (hroots.symm.trans hpaths)
      refine ⟨hbuild, (mem_of_sameVersions hversions).1, ?_, .inl hstored⟩
      intro path hpath snapshot hsnapshot
      rw [hget, readWith_of_get? hsnapshot]
  | built hroots hstale hroots' hfound hget hsources hprogram hversions hnumber hbuild =>
      obtain rfl := Except.ok.inj (hroots.symm.trans hpaths)
      refine ⟨hbuild, fun path => (mem_roots_versionsAt hversions path).symm, ?_,
        .inr (builtWith_known hsources)⟩
      intro path hpath snapshot hsnapshot
      rw [hget, prunedTo_of_mem hpath, readWith_of_get? hsnapshot, Option.some_or]

theorem known_asked_single {p : Project σ} {disk : Disk} {path content : Text} {s s₁ : Session σ}
    (h : asked p disk (.single path) s = some s₁) (hresolve : p.resolve disk path = .ok path)
    (htext : disk.text? path = some content) : known s₁.store path = some content := by
  obtain ⟨files, hfiles, rfl⟩ := asked_eq h
  have hsingle : refreshed p disk (.single path) = .ok [path] := by
    rw [refreshed_single hresolve, if_pos (isFile_of_text? htext)]
  obtain rfl := Except.ok.inj (hsingle.symm.trans hfiles)
  exact known_refresh htext false _

theorem builtWith_of_checked {p : Project σ} (hcached : p.noCache = false) (disk : Disk)
    (world : σ) (events : List (Event σ)) {path content : Text} {s s' : Session σ}
    {paths : List Text} {report : Report}
    (hcall : calls p (run p (start disk world) events) (.query (.single path)) = some s)
    (hresolve : p.resolve (run p (start disk world) events).disk path = .ok path)
    (htext : (run p (start disk world) events).disk.text? path = some content)
    (hpaths : rootsAt p (run p (start disk world) events).disk s.world = .ok paths)
    (hpath : path ∈ paths)
    (hrun : outcome (p.run (run p (start disk world) events).disk (.single path))
      (run p (start disk world) events).session = (.ok report, s')) :
    ∃ b, s'.build = some b ∧ path ∈ roots b ∧ (BuiltWith p.directory b path (some content) ∨
      (run p (start disk world) events).session.build = some b ∧
        AbsentSince p (start disk world) events b path) := by
  set st := run p (start disk world) events with hst
  obtain ⟨rest, hrest, hkeeps, -⟩ := run_of_asked hcall
  rw [hrest, outcome_bind] at hrun
  rcases hout : outcome (p.program st.disk) s with ⟨failure | b, s₁⟩
  · simp [hout] at hrun
  · have hkept : Kept s₁ (outcome (rest b) s₁).2 := hkeeps b s₁
    simp only [hout] at hrun
    rw [hrun] at hkept
    obtain ⟨hbuild, hroots, hsame, hnew⟩ := program_cases hcached hout hpaths
    obtain ⟨snapshot, hsnapshot, rfl⟩ :=
      Option.map_eq_some_iff.mp (known_asked_single hcall hresolve htext)
    have hknown : known s₁.store path = some snapshot.content := by
      rw [known, hsame path hpath snapshot hsnapshot, Option.map_some]
    refine ⟨b, hkept.2.trans hbuild, (hroots path).mp hpath, ?_⟩
    rcases hnew with hstored | hmade
    · rcases absentSince_or_builtWith hcached disk world events hcall hstored hout hpaths hpath with
        habsent | hwith
      · have hsame : s.build = st.session.build := (calls_grown hcall).1
        exact .inr ⟨hsame.symm.trans hstored, habsent⟩
      · exact .inl (hknown ▸ hwith)
    · exact .inl (hknown ▸ hmade path)

/-- The program at hand that is given out again has the source files of the moment and the texts
of their snapshots exactly if it was built from its own source files, and each of them that had
no snapshot at some moment since then has the text again that the program was built with. A check
of a source file that can be read is answered by a program with its text, unless a program is
given out again after the file had no snapshot at some moment. -/
theorem upToDate_iff {p : Project σ} (hcached : p.noCache = false) (disk : Disk) (world : σ)
    (events : List (Event σ)) :
    (∀ e s b s' paths, calls p (run p (start disk world) events) e = some s → s.build = some b →
      outcome (p.program (run p (start disk world) events).disk) s = (.ok b, s') →
      (outcome (p.rootFiles (run p (start disk world) events).disk) s).1 = .ok paths →
        (UpToDate p.directory b paths s'.store ↔ FoundRoots p.directory b ∧ ∀ path ∈ paths,
          AbsentSince p (start disk world) events b path →
            BuiltWith p.directory b path (known s'.store path))) ∧
    ∀ path content s paths report s',
      calls p (run p (start disk world) events) (.query (.single path)) = some s →
      p.resolve (run p (start disk world) events).disk path = .ok path →
      (run p (start disk world) events).disk.text? path = some content →
      (outcome (p.rootFiles (run p (start disk world) events).disk) s).1 = .ok paths →
      path ∈ paths →
      outcome (p.run (run p (start disk world) events).disk (.single path))
        (run p (start disk world) events).session = (.ok report, s') →
        ∃ b, s'.build = some b ∧ path ∈ roots b ∧ (BuiltWith p.directory b path (some content) ∨
          (run p (start disk world) events).session.build = some b ∧
            AbsentSince p (start disk world) events b path) := by
  refine ⟨?_, ?_⟩
  · intro e s b s' paths hcall hstored hprogram hpaths
    rw [outcome_rootFiles_fst] at hpaths
    have hroots := (reused_cases hcached hstored hprogram hpaths).2.1
    constructor
    · rintro ⟨hfiles, hwith⟩
      exact ⟨fun path => (hfiles path).trans (hroots path), fun path hpath _ => hwith path hpath⟩
    · rintro ⟨hfound, habsent⟩
      refine ⟨fun path => (hfound path).trans (hroots path).symm, fun path hpath => ?_⟩
      rcases absentSince_or_builtWith hcached disk world events hcall hstored hprogram
        hpaths hpath with h | hwith
      · exact habsent path hpath h
      · exact hwith
  · intro path content s paths report s' hcall hresolve htext hpaths hpath hrun
    rw [outcome_rootFiles_fst] at hpaths
    exact builtWith_of_checked hcached disk world events hcall hresolve htext hpaths hpath hrun

/-- A compiler that looks for two files, has no messages, and breaks down at an exclamation
mark. -/
def pairTools : Tools Unit where
  discover disk _ _ w :=
    let found := [['/', 'a'], ['/', 'b']].filter disk.isFile
    (.ok (found.map fun path => { path := some path, module := path }), w)
  build sources w :=
    (if sources.any (·.text == some ['!']) then .failed (.crash []) else .finished [] [], w)
  tick w := (.whole 0, w)
  versionControl _ _ w := (.missing, w)

/-- A project at the root of the disk, with that compiler. -/
def pair : Project Unit where
  config := { root := ['/'], compilerConfig := ['/', 'm'], settings := {} }
  options := {}
  noCache := false
  collectMetrics := true
  tools := pairTools

/-- A disk with one file of one byte. -/
def holding (name : Char) (byte : UInt8) : Disk := ⟨[([name], .file ⟨#[byte]⟩ 0)]⟩

/-- The first program of the project, of one file with a text. -/
def firstBuild (text : Option Text) : Build where
  number := 1
  program := ⟨[], [['/', 'a']]⟩
  sources := [⟨some ['/', 'a'], ['/', 'a'], text⟩]
  versions := [(['/', 'a'], 0)]

theorem upToDate_iff_unchanged :
    pair.noCache = false ∧ UpToDate pair.directory (firstBuild (some ['x'])) [['/', 'a']]
      (outcome (pair.program (holding 'a' 0x78))
        (run pair (start (holding 'a' 0x78) ()) [.program]).session).2.store := by
  have hiff := (upToDate_iff (p := pair) rfl (holding 'a' 0x78) () [.program]).1 .program _
    (firstBuild (some ['x'])) _ [['/', 'a']] rfl rfl rfl rfl
  refine ⟨rfl, hiff.mpr ⟨fun path => Iff.rfl, fun path hpath _ source hsource _ => ?_⟩⟩
  obtain rfl := List.mem_singleton.mp hpath
  obtain rfl := List.mem_singleton.mp hsource
  rfl

/-- A file that could not be read when the program was built. -/
def unread : State Unit :=
  run pair (start (holding 'a' 0xff) ()) [.program, .edit (holding 'a' 0x78) ()]

/-- A file that was pruned by a build that failed, and came back with another text. -/
def pruned : State Unit :=
  run pair (start (holding 'a' 0x78) ())
    [.program, .edit (holding 'b' 0x21) (), .program, .edit (holding 'a' 0x79) ()]

/-- Both files are checked with a program that was built with another text than theirs. -/
theorem not_upToDate_unread :
    (∃ s s', calls pair unread (.query (.single ['/', 'a'])) = some s ∧
      s.build = some (firstBuild none) ∧
      outcome (pair.program unread.disk) s = (.ok (firstBuild none), s') ∧
      (outcome (pair.rootFiles unread.disk) s).1 = .ok [['/', 'a']] ∧
      ¬ UpToDate pair.directory (firstBuild none) [['/', 'a']] s'.store) ∧
    ∃ s s', calls pair pruned (.query (.single ['/', 'a'])) = some s ∧
      s.build = some (firstBuild (some ['x'])) ∧
      outcome (pair.program pruned.disk) s = (.ok (firstBuild (some ['x'])), s') ∧
      (outcome (pair.rootFiles pruned.disk) s).1 = .ok [['/', 'a']] ∧
      ¬ UpToDate pair.directory (firstBuild (some ['x'])) [['/', 'a']] s'.store := by
  constructor
  · refine ⟨_, _, rfl, rfl, rfl, rfl, ?_⟩
    rintro ⟨-, hwith⟩
    have htext := hwith ['/', 'a'] (List.mem_singleton.mpr rfl) _ (List.mem_singleton.mpr rfl) rfl
    change none = some ['x'] at htext
    cases htext
  · refine ⟨_, _, rfl, rfl, rfl, rfl, ?_⟩
    rintro ⟨-, hwith⟩
    have htext := hwith ['/', 'a'] (List.mem_singleton.mpr rfl) _ (List.mem_singleton.mpr rfl) rfl
    change some ['x'] = some ['y'] at htext
    simp at htext

end Recheck.Proofs.ProgramReuse
