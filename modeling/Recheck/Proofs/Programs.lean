import Mathlib.Tactic.Set
import Recheck.Proofs.Activities
import Recheck.Proofs.Snapshots

/-!
How asking a session for its program ends: without source files, with the program that is at
hand, with a new one, or with a build that failed.
-/

namespace Recheck.Proofs.Programs

open Recheck.Proofs.Activities
open Recheck.Proofs.Snapshots
open Recheck.SnapshotStore

variable {σ : Type} {directory : Text}

/-- A session whose snapshots and whose program are those of another one. -/
def Kept (s s' : Session σ) : Prop := s'.store = s.store ∧ s'.build = s.build

theorem Kept.trans {s s' s'' : Session σ} (h : Kept s s') (h' : Kept s' s'') : Kept s s'' :=
  ⟨h'.1.trans h.1, h'.2.trans h.2⟩

@[simp]
theorem log_store (part : Part) (message : Text) (s : Session σ) :
    (s.log part message).store = s.store := rfl

@[simp]
theorem log_build (part : Part) (message : Text) (s : Session σ) :
    (s.log part message).build = s.build := rfl

@[simp]
theorem announce_store (message : Text) (s : Session σ) : (s.announce message).store = s.store :=
  rfl

@[simp]
theorem announce_build (message : Text) (s : Session σ) : (s.announce message).build = s.build :=
  rfl

@[simp]
theorem refresh_build (disk : Disk) (path : Text) (force : Bool) (s : Session σ) :
    (s.refresh disk path force).build = s.build := by
  unfold Session.refresh
  split <;> rfl

theorem refresh_world (disk : Disk) (path : Text) (force : Bool) (s : Session σ) :
    (s.refresh disk path force).world = s.world := by
  unfold Session.refresh
  split <;> rfl

@[simp]
theorem ensureRead_build (disk : Disk) (path : Text) (s : Session σ) :
    (s.ensureRead disk path).build = s.build := by
  unfold Session.ensureRead
  split
  · rfl
  · exact refresh_build disk path false s

@[simp]
theorem readAll_build (disk : Disk) (again : Bool) (paths : List Text) (s : Session σ) :
    (s.readAll disk again paths).build = s.build := by
  induction paths generalizing s with
  | nil => rfl
  | cons path paths ih =>
      have hcons : s.readAll disk again (path :: paths) = (if again then s.refresh disk path true
        else s.ensureRead disk path).readAll disk again paths := rfl
      rw [hcons, ih]
      split <;> simp

@[simp]
theorem withTexts_build (disk : Disk) (sources : List Source) (s : Session σ) :
    (Session.withTexts directory disk sources s).2.build = s.build := by
  induction sources generalizing s with
  | nil => rfl
  | cons source sources ih =>
      cases h : fileOf directory source with
      | none => rw [withTexts_cons_of_none h, ih]
      | some file => rw [withTexts_cons_of_some h, ih, ensureRead_build]

@[simp]
theorem prune_build (disk : Disk) (roots : List Text) (s : Session σ) :
    (s.prune disk roots).build = s.build := by
  simp only [Session.prune]
  split <;> rfl

theorem get?_session_prune (disk : Disk) (roots : List Text) (s : Session σ) (q : Text) :
    (s.prune disk roots).store.get? q =
      if roots.contains q || disk.exists? q then s.store.get? q else none := by
  simp only [Session.prune]
  split
  · next hnone =>
      cases hq : s.store.get? q with
      | none => simp
      | some snapshot =>
          have hmem : q ∈ s.store.paths :=
            List.mem_map.mpr ⟨snapshot, List.mem_of_find?_eq_some hq, path_of_get? hq⟩
          have hkept : (roots.contains q || disk.exists? q) = true := by
            simpa only [Bool.not_eq_true', Bool.not_eq_false] using
              List.filter_eq_nil_iff.mp hnone q hmem
          rw [if_pos hkept]
  · rw [log_store, get?_prune]

/-- The source files of the project, as the tools find them in a world. -/
def rootsAt (p : Project σ) (disk : Disk) (w : σ) : Except Failure (List Text) :=
  match (p.tools.discover disk (p.options.targets p.root) true w).1 with
  | .error reason => .error (.fault (.sourcesNotCollected reason (some p.root)))
  | .ok sources => .ok (files p.directory sources)

/-- The sources among some source files, as the tools find them in a world. -/
def sourcesAt (p : Project σ) (disk : Disk) (roots : List Text) (w : σ) :
    Except Failure (List Source) :=
  match (p.tools.discover disk roots false w).1 with
  | .error reason => .error (.fault (.sourcesNotCollected reason none))
  | .ok found => .ok found

/-- The program that a build of some source files gives. -/
def programOf (directory : Text) (roots : List Text) : BuildOutcome → Except Failure Program
  | .failed failure => .error failure
  | .blocked lines _ => Program.ofLines directory lines roots
  | .finished lines loaded => Program.ofLines directory lines (roots ++ loaded.filter (!·.isEmpty))

theorem outcome_rootFiles (p : Project σ) (disk : Disk) (s : Session σ) :
    ∃ w, outcome (p.rootFiles disk) s = (rootsAt p disk s.world, { s with world := w }) := by
  refine ⟨(p.tools.discover disk (p.options.targets p.root) true s.world).2, ?_⟩
  unfold Project.rootFiles rootsAt
  rw [outcome_bind, outcome_ask]
  cases (p.tools.discover disk (p.options.targets p.root) true s.world).1 with
  | error reason => simp
  | ok sources => simp [files_eq]

theorem outcome_rootFiles_fst (p : Project σ) (disk : Disk) (s : Session σ) :
    (outcome (p.rootFiles disk) s).1 = rootsAt p disk s.world := by
  obtain ⟨w, hroots⟩ := outcome_rootFiles p disk s
  rw [hroots]

inductive Creates (p : Project σ) (disk : Disk) (s : Session σ) :
    Except Failure (Program × List Source) × Session σ → Prop
  | unfound {w w' : σ} {failure : Failure} {s' : Session σ} (hkept : Kept s s')
      (hfound : (rootsAt p disk w >>= fun roots => sourcesAt p disk roots w') = .error failure) :
      Creates p disk s (.error failure, s')
  /-- The sources are found, read and built. -/
  | built {w w' w'' : σ} {roots : List Text} {found sources : List Source} {s' : Session σ}
      (hroots : rootsAt p disk w = .ok roots) (hfound : sourcesAt p disk roots w' = .ok found)
      (hget : ∀ q, s'.store.get? q =
        (s.store.get? q).or (if q ∈ files p.directory found then first disk q else none))
      (hsources : sources = found.map (withText p.directory (known s'.store)))
      (hbuild : s'.build = s.build) :
      Creates p disk s
        ((programOf p.directory roots (p.tools.build sources w'').1).map fun program =>
          (program, sources), s')

theorem createProgram_creates (p : Project σ) (disk : Disk) (s : Session σ) :
    Creates p disk s (outcome (p.createProgram disk) s) := by
  obtain ⟨w, hroots⟩ := outcome_rootFiles p disk s
  unfold Project.createProgram
  cases h : rootsAt p disk s.world with
  | error failure =>
      rw [h] at hroots
      rw [outcome_bind_of_error hroots]
      have hfailed : (rootsAt p disk s.world >>= fun roots => sourcesAt p disk roots w) =
          .error failure := by simp [h, bind, Except.bind]
      exact .unfound ⟨rfl, rfl⟩ hfailed
  | ok roots =>
      rw [h] at hroots
      rw [outcome_bind_of_ok hroots, outcome_bind, outcome_ask]
      cases hfound : (p.tools.discover disk roots false w).1 with
      | error reason =>
          have hfailed : (rootsAt p disk s.world >>= fun roots => sourcesAt p disk roots w) =
              .error (.fault (.sourcesNotCollected reason none)) := by
            simp [h, hfound, sourcesAt, bind, Except.bind]
          exact .unfound ⟨rfl, rfl⟩ hfailed
      | ok found =>
          simp only [outcome_bind, outcome_modifyGet, outcome_ask]
          set s₁ : Session σ :=
            { s with world := (p.tools.discover disk roots false w).2 } with hs₁
          set t := Session.withTexts p.directory disk found s₁ with ht
          have hbuilt : ∀ {answer : Except Failure (Program × List Source)} {s' : Session σ},
              s'.store = t.2.store → s'.build = s.build →
              answer = (programOf p.directory roots (p.tools.build t.1 t.2.world).1).map
                (fun program => (program, t.1)) → Creates p disk s (answer, s') := by
            rintro answer s' hstore hbuild rfl
            refine .built h (by rw [sourcesAt, hfound]) ?_ ?_ hbuild
            · intro q
              rw [hstore, ht, get?_withTexts]
            · rw [hstore, ht, withTexts_eq]
          have hkept : t.2.build = s.build := withTexts_build disk found s₁
          cases hbuild : (p.tools.build t.1 t.2.world).1 with
          | failed failure => exact hbuilt rfl hkept (by rw [hbuild]; rfl)
          | blocked lines module =>
              simp only [outcome_bind, outcome_modify, outcome_lift, outcome_map, bind_pure_comp]
              exact hbuilt rfl hkept (by rw [hbuild]; rfl)
          | finished lines loaded =>
              simp only [outcome_lift, outcome_map, bind_pure_comp]
              exact hbuilt rfl hkept (by rw [hbuild]; rfl)

theorem current?_eq_some_iff {versions : List (Text × Nat)} {s : Session σ} {b : Build} :
    Project.current? versions s = some b ↔
      s.build = some b ∧ Session.sameVersions versions b.versions = true :=
  Option.filter_eq_some_iff

theorem current?_eq_none_iff {versions : List (Text × Nat)} {s : Session σ} :
    Project.current? versions s = none ↔
      ∀ b, s.build = some b → Session.sameVersions versions b.versions = false := by
  rw [Project.current?, Option.filter_eq_none_iff]
  simp

/-- How asking for the program ends, whether snapshots are kept or read again. -/
inductive Yields (p : Project σ) (disk : Disk) (s : Session σ) :
    Except Failure Build × Session σ → Prop
  | rootless {failure : Failure} {s' : Session σ} (hkept : Kept s s')
      (hroots : rootsAt p disk s.world = .error failure) : Yields p disk s (.error failure, s')
  | reused {roots : List Text} {w : σ} {b : Build} {s' : Session σ}
      (hroots : rootsAt p disk s.world = .ok roots)
      (hread : s' = { s with world := w }.readAll disk p.noCache roots) (hstored : s.build = some b)
      (hversions : Session.sameVersions (s'.versionsOf roots) b.versions = true) :
      Yields p disk s (.ok b, s')
  /-- A new program is wanted and cannot be made. -/
  | failed {roots : List Text} {w : σ} {answer : Except Failure (Program × List Source)}
      {failure : Failure} {read pruned s' : Session σ}
      (hroots : rootsAt p disk s.world = .ok roots)
      (hread : read = { s with world := w }.readAll disk p.noCache roots)
      (hstale : ∀ b, s.build = some b →
        Session.sameVersions (read.versionsOf roots) b.versions = false)
      (hpruned : Kept (read.prune disk roots) pruned)
      (hcreates : Creates p disk pruned (answer, s')) (hanswer : answer = .error failure) :
      Yields p disk s (.error failure, s')
  | built {roots : List Text} {w : σ} {answer : Except Failure (Program × List Source)} {b : Build}
      {read pruned made s' : Session σ} (hroots : rootsAt p disk s.world = .ok roots)
      (hread : read = { s with world := w }.readAll disk p.noCache roots)
      (hstale : ∀ b, s.build = some b →
        Session.sameVersions (read.versionsOf roots) b.versions = false)
      (hpruned : Kept (read.prune disk roots) pruned)
      (hcreates : Creates p disk pruned (answer, made))
      (hanswer : answer = .ok (b.program, b.sources))
      (hversions : b.versions = read.versionsOf roots)
      (hnumber : b.number = (s.build.map (·.number)).getD 0 + 1)
      (hstore : s'.store = made.store) (hbuild : s'.build = some b) : Yields p disk s (.ok b, s')

theorem program_yields (p : Project σ) (disk : Disk) (s : Session σ) :
    Yields p disk s (outcome (p.program disk) s) := by
  obtain ⟨w, hroots⟩ := outcome_rootFiles p disk s
  unfold Project.program
  cases h : rootsAt p disk s.world with
  | error failure =>
      rw [h] at hroots
      rw [outcome_bind_of_error hroots]
      exact .rootless ⟨rfl, rfl⟩ h
  | ok roots =>
      rw [h] at hroots
      rw [outcome_bind_of_ok hroots]
      simp only [outcome_bind, outcome_modify, outcome_get]
      set read := Session.readAll disk p.noCache roots { s with world := w } with hread
      have hreadbuild : read.build = s.build := readAll_build disk p.noCache roots _
      cases hcurrent : Project.current? (read.versionsOf roots) read with
      | some b =>
          obtain ⟨hstored, hsame⟩ := current?_eq_some_iff.mp hcurrent
          exact .reused h hread (hreadbuild.symm.trans hstored) hsame
      | none =>
          have hstale := current?_eq_none_iff.mp hcurrent
          rw [hreadbuild] at hstale
          simp only [outcome_bind, outcome_modify]
          set pruned := Session.announce _ (read.prune disk roots) with hannounced
          have hkept : Kept (read.prune disk roots) pruned := ⟨rfl, rfl⟩
          -- From here on creating the program is known by its ways to end alone.
          have hcreates := createProgram_creates p disk pruned
          generalize outcome (p.createProgram disk) pruned = result at hcreates
          rcases result with ⟨failure | made, s'⟩
          · exact .failed h hread hstale hkept hcreates rfl
          · exact .built h hread hstale hkept hcreates rfl rfl (by rw [← hreadbuild]) rfl rfl

/-- What a session knows of a path once it has read the source files. -/
def readWith (disk : Disk) (roots : List Text) (s : Session σ) (path : Text) : Option Snapshot :=
  (s.store.get? path).or (if roots.contains path then first disk path else none)

/-- What is left of it once the session has pruned its snapshots. -/
def prunedTo (disk : Disk) (roots : List Text) (s : Session σ) (path : Text) : Option Snapshot :=
  if roots.contains path || disk.exists? path then readWith disk roots s path else none

theorem readWith_of_mem {disk : Disk} {roots : List Text} {path : Text} (h : path ∈ roots)
    (s : Session σ) : readWith disk roots s path = (s.store.get? path).or (first disk path) := by
  rw [readWith, if_pos (List.contains_iff_mem.mpr h)]

theorem readWith_of_get? {disk : Disk} {roots : List Text} {s : Session σ} {path : Text}
    {snapshot : Snapshot} (h : s.store.get? path = some snapshot) :
    readWith disk roots s path = some snapshot := by
  rw [readWith, h, Option.some_or]

theorem prunedTo_of_mem {disk : Disk} {roots : List Text} {path : Text} (h : path ∈ roots)
    (s : Session σ) : prunedTo disk roots s path = readWith disk roots s path := by
  rw [prunedTo, List.contains_iff_mem.mpr h, Bool.true_or, if_pos rfl]

theorem get?_readAll_roots (disk : Disk) (roots : List Text) (s : Session σ) (q : Text) :
    (s.readAll disk false roots).store.get? q = readWith disk roots s q := by
  simp [get?_readAll, readWith]

/-- The versions of the source files once they have been read. -/
def versionsAt (disk : Disk) (roots : List Text) (s : Session σ) : List (Text × Nat) :=
  roots.eraseDups.map fun path =>
    (path, ((readWith disk roots s path).map (·.version)).getD 0)

/-- How asking for the program ends. -/
inductive Ends (p : Project σ) (disk : Disk) (s : Session σ) :
    Except Failure Build × Session σ → Prop
  | rootless {failure : Failure} {s' : Session σ} (hkept : Kept s s')
      (hroots : rootsAt p disk s.world = .error failure) : Ends p disk s (.error failure, s')
  /-- The program at hand has the versions of the source files. -/
  | reused {roots : List Text} {b : Build} {s' : Session σ}
      (hroots : rootsAt p disk s.world = .ok roots) (hstored : s.build = some b)
      (hversions : Session.sameVersions (versionsAt disk roots s) b.versions = true)
      (hget : ∀ q, s'.store.get? q = readWith disk roots s q) (hbuild : s'.build = some b) :
      Ends p disk s (.ok b, s')
  /-- The sources for a new program are not found. -/
  | unfound {roots : List Text} {w w' : σ} {failure : Failure} {s' : Session σ}
      (hroots : rootsAt p disk s.world = .ok roots)
      (hstale : ∀ b, s.build = some b →
        Session.sameVersions (versionsAt disk roots s) b.versions = false)
      (hfound : (rootsAt p disk w >>= fun roots => sourcesAt p disk roots w') = .error failure)
      (hget : ∀ q, s'.store.get? q = prunedTo disk roots s q) (hbuild : s'.build = s.build) :
      Ends p disk s (.error failure, s')
  /-- The build of a new program fails. -/
  | unbuilt {roots roots' : List Text} {w w' w'' : σ} {found : List Source} {failure : Failure}
      {s' : Session σ} (hroots : rootsAt p disk s.world = .ok roots)
      (hstale : ∀ b, s.build = some b →
        Session.sameVersions (versionsAt disk roots s) b.versions = false)
      (hroots' : rootsAt p disk w = .ok roots') (hfound : sourcesAt p disk roots' w' = .ok found)
      (hget : ∀ q, s'.store.get? q =
        (prunedTo disk roots s q).or (if q ∈ files p.directory found then first disk q else none))
      (hprogram : programOf p.directory roots'
        (p.tools.build (found.map (withText p.directory (known s'.store))) w'').1 = .error failure)
      (hbuild : s'.build = s.build) : Ends p disk s (.error failure, s')
  | built {roots roots' : List Text} {w w' w'' : σ} {found : List Source} {b : Build}
      {s' : Session σ} (hroots : rootsAt p disk s.world = .ok roots)
      (hstale : ∀ b, s.build = some b →
        Session.sameVersions (versionsAt disk roots s) b.versions = false)
      (hroots' : rootsAt p disk w = .ok roots') (hfound : sourcesAt p disk roots' w' = .ok found)
      (hget : ∀ q, s'.store.get? q =
        (prunedTo disk roots s q).or (if q ∈ files p.directory found then first disk q else none))
      (hsources : b.sources = found.map (withText p.directory (known s'.store)))
      (hprogram : programOf p.directory roots' (p.tools.build b.sources w'').1 = .ok b.program)
      (hversions : b.versions = versionsAt disk roots s)
      (hnumber : b.number = (s.build.map (·.number)).getD 0 + 1) (hbuild : s'.build = some b) :
      Ends p disk s (.ok b, s')

theorem versionsOf_readAll (disk : Disk) (roots : List Text) (s : Session σ) :
    (s.readAll disk false roots).versionsOf roots = versionsAt disk roots s := by
  simp only [Session.versionsOf, Session.versionOf, version?, get?_readAll_roots]
  rfl

theorem get?_prune_readAll (disk : Disk) (roots : List Text) (s : Session σ) (q : Text) :
    ((s.readAll disk false roots).prune disk roots).store.get? q = prunedTo disk roots s q := by
  rw [get?_session_prune, get?_readAll_roots, prunedTo]

theorem programOf_of_error {roots : List Text} {outcome : BuildOutcome} {sources : List Source}
    {failure : Failure}
    (h : (programOf directory roots outcome).map (·, sources) = .error failure) :
    programOf directory roots outcome = .error failure := by
  cases hprogram : programOf directory roots outcome with
  | error failure' => simpa [hprogram, Except.map] using h
  | ok program => simp [hprogram, Except.map] at h

theorem programOf_of_ok {roots : List Text} {outcome : BuildOutcome}
    {sources sources' : List Source} {program : Program}
    (h : (programOf directory roots outcome).map (·, sources) = .ok (program, sources')) :
    programOf directory roots outcome = .ok program ∧ sources = sources' := by
  cases hprogram : programOf directory roots outcome with
  | error failure => simp [hprogram, Except.map] at h
  | ok program' => simpa [hprogram, Except.map] using h

theorem build_of_creates {p : Project σ} {disk : Disk} {s s' : Session σ}
    {answer : Except Failure (Program × List Source)} (h : Creates p disk s (answer, s')) :
    s'.build = s.build := by
  cases h with
  | unfound hkept hfound => exact hkept.2
  | built hroots hfound hget hsources hbuild => exact hbuild

theorem build_of_pruned {p : Project σ} {disk : Disk} {roots : List Text} {w : σ}
    {s read pruned : Session σ} (hread : read = { s with world := w }.readAll disk p.noCache roots)
    (hpruned : Kept (read.prune disk roots) pruned) : pruned.build = s.build := by
  rw [hpruned.2, prune_build, hread, readAll_build]

section

variable {p : Project σ} {P : Program → Prop}
  (hP : ∀ lines loaded program, Program.ofLines p.directory lines loaded = .ok program → P program)

include hP

theorem forall_programOf {roots : List Text} {outcome : BuildOutcome} {program : Program}
    (h : programOf p.directory roots outcome = .ok program) : P program := by
  cases outcome with
  | failed failure => cases h
  | blocked lines module => exact hP _ _ _ h
  | finished lines loaded => exact hP _ _ _ h

theorem forall_of_yields {disk : Disk} {s s' : Session σ}
    {answer : Except Failure Build} (h : Yields p disk s (answer, s'))
    (hs : ∀ b, s.build = some b → P b.program) :
    (∀ b, answer = .ok b → P b.program) ∧ ∀ b, s'.build = some b → P b.program := by
  cases h with
  | rootless hkept hroots => exact ⟨nofun, fun b hb => hs b (hkept.2 ▸ hb)⟩
  | reused hroots hread hstored hversions =>
      constructor
      · rintro b' ⟨⟩
        exact hs _ hstored
      · rw [hread, readAll_build]
        exact hs
  | failed hroots hread hstale hpruned hcreates hanswer =>
      constructor
      · exact nofun
      · rw [build_of_creates hcreates, build_of_pruned hread hpruned]
        exact hs
  | @built roots w answer b read pruned made s' hroots hread hstale hpruned hcreates
    hanswer hversions
      hnumber hstore hbuild =>
      have hnew : P b.program := by
        cases hcreates with
        | unfound hkept hfound => cases hanswer
        | built hroots hfound hget hsources hkept =>
            obtain ⟨program, hprogram, heq⟩ := exists_of_map_eq_ok hanswer
            obtain ⟨rfl, -⟩ := Prod.mk.inj heq
            exact forall_programOf hP hprogram
      constructor
      · rintro b' ⟨⟩
        exact hnew
      · intro b' hb'
        obtain rfl := Option.some.inj (hbuild.symm.trans hb')
        exact hnew

end

theorem get?_pruned {p : Project σ} (hcached : p.noCache = false) {disk : Disk}
    {roots : List Text} {w : σ} {s read pruned : Session σ}
    (hread : read = { s with world := w }.readAll disk p.noCache roots)
    (hpruned : Kept (read.prune disk roots) pruned) (q : Text) :
    pruned.store.get? q = prunedTo disk roots s q := by
  rw [hpruned.1, hread, hcached]
  exact get?_prune_readAll disk roots { s with world := w } q

theorem program_ends {p : Project σ} (hcached : p.noCache = false) (disk : Disk) (s : Session σ) :
    Ends p disk s (outcome (p.program disk) s) := by
  have hversionsOf : ∀ {roots : List Text} {w : σ} {read : Session σ},
      read = { s with world := w }.readAll disk p.noCache roots →
      read.versionsOf roots = versionsAt disk roots s := by
    rintro roots w read rfl
    rw [hcached]
    exact versionsOf_readAll disk roots { s with world := w }
  have hyields := program_yields p disk s
  generalize outcome (p.program disk) s = result at hyields
  cases hyields with
  | rootless hkept hroots => exact .rootless hkept hroots
  | @reused roots w b s' hroots hread hstored hversions =>
      refine .reused hroots hstored (hversionsOf hread ▸ hversions) (fun q => ?_) ?_
      · rw [hread, hcached]
        exact get?_readAll_roots disk roots { s with world := w } q
      · rw [hread, readAll_build, ← hstored]
  | @failed roots w answer failure read pruned s' hroots hread hstale hpruned hcreates hanswer =>
      rw [hversionsOf hread] at hstale
      have hget := get?_pruned hcached hread hpruned
      have hbuild := build_of_pruned hread hpruned
      cases hcreates with
      | unfound hkept hfound =>
          obtain rfl := Except.error.inj hanswer
          exact .unfound hroots hstale hfound (fun q => by rw [hkept.1, hget])
            (hkept.2.trans hbuild)
      | built hroots' hfound hget' hsources hbuild' =>
          have hprogram := programOf_of_error hanswer
          subst hsources
          exact .unbuilt hroots hstale hroots' hfound (fun q => by rw [hget', hget]) hprogram
            (hbuild'.trans hbuild)
  | @built roots w answer b read pruned made s' hroots hread hstale hpruned hcreates
    hanswer hversions
      hnumber hstore hbuild =>
      rw [hversionsOf hread] at hstale hversions
      have hget := get?_pruned hcached hread hpruned
      cases hcreates with
      | unfound hkept hfound => cases hanswer
      | built hroots' hfound hget' hsources hbuild' =>
          obtain ⟨hprogram, rfl⟩ := programOf_of_ok hanswer
          exact .built hroots hstale hroots' hfound (fun q => by rw [hstore, hget', hget])
            (hstore ▸ hsources) hprogram hversions hnumber hbuild

end Recheck.Proofs.Programs
