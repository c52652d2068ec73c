import Recheck.Proofs.BatchChecks
import Recheck.Proofs.Creations
import Recheck.Proofs.ForcedRebuilds

/-!
What a failed query leaves behind. A query that fails before it asks for the program leaves the
session as it was. Where the program itself fails, the one at hand stays with its versions, and
no snapshot of a source file is lost; as the versions of the source files stay as well, the program
at hand is as outdated as before, and asking again comes to creating a program again until that
succeeds.
-/

namespace Recheck.Proofs.FailedQueries

open Recheck.Proofs.Activities
open Recheck.Proofs.BatchChecks
open Recheck.Proofs.Creations
open Recheck.Proofs.DiskPrograms
open Recheck.Proofs.Distinct
open Recheck.Proofs.Faults
open Recheck.Proofs.ForcedRebuilds
open Recheck.Proofs.Programs
open Recheck.Proofs.Queries
open Recheck.Proofs.SessionRuns
open Recheck.Proofs.Snapshots

variable {σ : Type} {p : Project σ} {disk : Disk} {s s' : Session σ}

theorem keeps_ask (p : Project σ) (arguments : List Text) : Keeps (Change.ask p arguments) := by
  unfold Change.ask
  refine Keeps.bind (fun _ => ⟨rfl, rfl⟩) fun reply => ?_
  cases reply with
  | output text => exact keeps_pure text
  | failed complaints => exact (keeps_log _ _).bind fun _ => keeps_throw _
  | missing | notRun | garbled => exact keeps_throw _

theorem keeps_changedFiles (p : Project σ) (extensions : List Text) (disk : Disk) :
    Keeps (Change.changedFiles p extensions disk) := by
  unfold Change.changedFiles
  refine (keeps_ask p _).bind fun top => (keeps_lift _).bind fun top => ?_
  refine (keeps_ask p _).bind fun listing => (keeps_lift _).bind fun files => ?_
  exact (keeps_log _ _).bind fun _ => keeps_pure _

theorem kept_checkFile (hspare : BuildsSpare .sourceNotFound p.tools) {file : Text}
    (h : Raises .sourceNotFound (outcome (p.checkFile disk file) s).1) :
    Kept s (outcome (p.checkFile disk file) s).2 := by
  obtain ⟨target, hresolve, hmissed⟩ := (raises_checkFile (by decide) hspare).mp h
  split at hmissed
  · cases hmissed.1
  · next hmissing =>
      rw [checkFile_of_missing hresolve (by simpa using hmissing)]
      exact ⟨rfl, rfl⟩

theorem kept_checkChanged (hspare : BuildsSpare .notVersionControlled p.tools)
    {changed : Disk → Activity σ (List Text)} (hchanged : Keeps (changed disk))
    (h : Raises .notVersionControlled (outcome (p.checkChanged changed disk) s).1) :
    Kept s (outcome (p.checkChanged changed disk) s).2 := by
  unfold Project.checkChanged at h ⊢
  have hkept := hchanged s
  rw [outcome_bind] at h ⊢
  rcases hfiles : outcome (changed disk) s with ⟨failure | files, s'⟩
  · rw [hfiles] at hkept
    exact hkept
  · rw [hfiles] at h
    exact absurd h (not_raises_checkPaths (by decide) hspare disk files s')

/-- What is left where asking for the program has failed: the program at hand with its versions, the
snapshots of the source files, and no word of a program that is ready. -/
structure Withstands (p : Project σ) (disk : Disk) (s s' : Session σ) : Prop where
  build : s'.build = s.build
  rootless : ∀ failure, rootsAt p disk s.world = .error failure → s'.store = s.store
  roots : ∀ paths, rootsAt p disk s.world = .ok paths → ∀ path ∈ paths, ∀ snapshot,
    s.store.get? path = some snapshot →
      ∃ snapshot', s'.store.get? path = some snapshot' ∧ snapshot.version ≤ snapshot'.version
  cached : p.noCache = false → ∀ paths, rootsAt p disk s.world = .ok paths → ∀ path ∈ paths,
    s'.store.get? path = readWith disk paths s path
  unready : Unready s s'

theorem get?_of_pruned_root {paths : List Text} {read pruned : Session σ} {path : Text}
    (hpruned : Kept (read.prune disk paths) pruned) (hpath : path ∈ paths) :
    pruned.store.get? path = read.store.get? path := by
  rw [hpruned.1, get?_session_prune, List.contains_iff_mem.mpr hpath, Bool.true_or, if_pos rfl]

theorem growsAt_reading (disk : Disk) (again : Bool) (paths : List Text) (s : Session σ)
    (q : Text) :
    GrowsAt q s.store (s.readAll disk again paths).store := by
  cases again with
  | false => exact growsAt_readAll disk paths s q
  | true => exact growsAt_readAll_again disk paths s q

theorem readWith_or_first {paths : List Text} {path : Text} (hpath : path ∈ paths) (more : Prop)
    [Decidable more] (s : Session σ) :
    (readWith disk paths s path).or (if more then first disk path else none) =
      readWith disk paths s path := by
  rw [readWith_of_mem hpath]
  cases s.store.get? path with
  | some snapshot => rfl
  | none => cases first disk path <;> simp

theorem readWith_of_ends {answer : Except Failure Build} (h : Ends p disk s (answer, s'))
    {paths : List Text} (hroots : rootsAt p disk s.world = .ok paths) {path : Text}
    (hpath : path ∈ paths) : s'.store.get? path = readWith disk paths s path := by
  cases h with
  | rootless hkept hroots' => cases hroots'.symm.trans hroots
  | reused hroots' hstored hversions hget hbuild =>
      obtain rfl := Except.ok.inj (hroots'.symm.trans hroots)
      exact hget path
  | unfound hroots' hstale hfound hget hbuild =>
      obtain rfl := Except.ok.inj (hroots'.symm.trans hroots)
      rw [hget, prunedTo_of_mem hpath]
  | unbuilt hroots' hstale hroots'' hfound hget hprogram hbuild =>
      obtain rfl := Except.ok.inj (hroots'.symm.trans hroots)
      rw [hget, prunedTo_of_mem hpath, readWith_or_first hpath]
  | built hroots' hstale hroots'' hfound hget hsources hprogram hversions hnumber hbuild =>
      obtain rfl := Except.ok.inj (hroots'.symm.trans hroots)
      rw [hget, prunedTo_of_mem hpath, readWith_or_first hpath]

theorem withstands_of_error {failure : Failure}
    (h : outcome (p.program disk) s = (.error failure, s')) : Withstands p disk s s' := by
  have hyields := program_yields p disk s
  rw [h] at hyields
  have hcached : p.noCache = false → ∀ paths, rootsAt p disk s.world = .ok paths →
      ∀ path ∈ paths, s'.store.get? path = readWith disk paths s path := by
    intro hcached paths hroots path hpath
    have hends := program_ends hcached disk s
    rw [h] at hends
    exact readWith_of_ends hends hroots hpath
  cases hyields with
  | rootless hkept hroots =>
      refine ⟨hkept.2, fun _ _ => hkept.1, fun paths hroots' => ?_, hcached, unready_of_error h⟩
      cases hroots.symm.trans hroots'
  | @failed paths w answer failure read pruned s' hroots hread hstale hpruned hcreates hanswer =>
      refine ⟨(build_of_creates hcreates).trans (build_of_pruned hread hpruned), ?_, ?_, hcached,
        unready_of_error h⟩
      · intro failure' hroots'
        cases hroots.symm.trans hroots'
      · intro paths' hroots' path hpath snapshot hsnapshot
        obtain rfl := Except.ok.inj (hroots.symm.trans hroots')
        obtain ⟨snapshot₁, hread₁, hle₁, -⟩ := growsAt_reading disk p.noCache paths
          { s with world := w } path snapshot hsnapshot
        rw [← hread, ← get?_of_pruned_root hpruned hpath] at hread₁
        obtain ⟨snapshot₂, hmade, hle₂, -⟩ := growsAt_of_creates hcreates path snapshot₁ hread₁
        exact ⟨snapshot₂, hmade, Nat.le_trans hle₁ hle₂⟩

/-- The search for source files names the same ones. -/
def Names (p : Project σ) (disk : Disk) (paths : List Text) (w : σ) : Prop :=
  ∃ paths', rootsAt p disk w = .ok paths' ∧ ∀ path, path ∈ paths' ↔ path ∈ paths

/-- The session in another world. -/
def inWorld (w : σ) (s : Session σ) : Session σ := { s with world := w }

/-- The session after further calls for the program on one disk, each in a world of its own. -/
def askAgain (p : Project σ) (disk : Disk) (s : Session σ) (worlds : List σ) : Session σ :=
  worlds.foldl (fun s w => (outcome (p.program disk) (inWorld w s)).2) s

/-- None of the further calls gives out a program. -/
def AllFail (p : Project σ) (disk : Disk) : Session σ → List σ → Prop
  | _, [] => True
  | s, w :: worlds =>
    (∃ failure, (outcome (p.program disk) (inWorld w s)).1 = .error failure) ∧
      AllFail p disk (outcome (p.program disk) (inWorld w s)).2 worlds

/-- The program that was at hand before has other versions than the source files have now, and the
one at hand is that program or a later one. -/
structure Spent (disk : Disk) (paths : List Text) (before : Option Build) (s : Session σ) :
    Prop where
  stale : ∀ b, before = some b → Session.sameVersions (versionsAt disk paths s) b.versions = false
  build : s.build = before ∨
    ∃ b, s.build = some b ∧ ∀ old, before = some old → old.number < b.number

theorem sameVersions_congr {paths paths' : List Text} {version version' : Text → Nat}
    (hsame : ∀ path, path ∈ paths' ↔ path ∈ paths)
    (hversion : ∀ path ∈ paths, version' path = version path) (versions : List (Text × Nat)) :
    Session.sameVersions (paths'.eraseDups.map fun path => (path, version' path)) versions =
      Session.sameVersions (paths.eraseDups.map fun path => (path, version path)) versions := by
  have hperm : paths'.eraseDups.Perm paths.eraseDups := by
    rw [List.perm_ext_iff_of_nodup (nodup_eraseDups paths') (nodup_eraseDups paths)]
    simpa using hsame
  have hmap : (paths.eraseDups.map fun path => (path, version' path)) =
      paths.eraseDups.map fun path => (path, version path) :=
    List.map_congr_left fun path hpath => by rw [hversion path (List.mem_eraseDups.mp hpath)]
  have hversions := hmap ▸ hperm.map fun path => (path, version' path)
  rw [Session.sameVersions, Session.sameVersions, hversions.length_eq, hversions.all_eq]

theorem sameVersions_of_names {paths paths' : List Text}
    (hsame : ∀ path, path ∈ paths' ↔ path ∈ paths)
    (hread : ∀ path ∈ paths, readWith disk paths' s' path = readWith disk paths s path)
    (versions : List (Text × Nat)) :
    Session.sameVersions (versionsAt disk paths' s') versions =
      Session.sameVersions (versionsAt disk paths s) versions :=
  sameVersions_congr hsame (fun path hpath => by rw [hread path hpath]) versions

theorem readWith_of_names {paths paths' : List Text} (hsame : ∀ path, path ∈ paths' ↔ path ∈ paths)
    (s : Session σ) : ∀ path ∈ paths, readWith disk paths' s path = readWith disk paths s path := by
  intro path hpath
  rw [readWith_of_mem hpath, readWith_of_mem ((hsame path).mpr hpath)]

theorem readWith_program (hcached : p.noCache = false) {paths : List Text} {w : σ}
    (hnames : Names p disk paths w) (s : Session σ) : ∀ path ∈ paths,
      readWith disk paths (outcome (p.program disk) (inWorld w s)).2 path =
        readWith disk paths s path := by
  intro path hpath
  obtain ⟨paths', hroots, hsame⟩ := hnames
  have hends := program_ends hcached disk (inWorld w s)
  generalize outcome (p.program disk) (inWorld w s) = result at hends ⊢
  rcases result with ⟨answer, s'⟩
  have hget : s'.store.get? path = readWith disk paths' s path :=
    readWith_of_ends hends hroots ((hsame path).mpr hpath)
  rw [readWith_of_mem hpath, hget, readWith_of_names hsame s path hpath, readWith_of_mem hpath]
  cases s.store.get? path with
  | some snapshot => rfl
  | none => cases first disk path <;> rfl

theorem spent_program (hcached : p.noCache = false) {paths : List Text} {before : Option Build}
    (h : Spent disk paths before s) {w : σ} (hnames : Names p disk paths w) :
    Spent disk paths before (outcome (p.program disk) (inWorld w s)).2 ∧
      ∀ b, (outcome (p.program disk) (inWorld w s)).1 = .ok b → before ≠ some b := by
  have hread := readWith_program hcached hnames s
  have hstale : ∀ b, before = some b → Session.sameVersions
      (versionsAt disk paths (outcome (p.program disk) (inWorld w s)).2) b.versions =
        false := by
    intro b hb
    rw [sameVersions_of_names (fun _ => Iff.rfl) hread]
    exact h.stale b hb
  obtain ⟨paths', hroots, hsame⟩ := hnames
  have hends := program_ends hcached disk (inWorld w s)
  generalize outcome (p.program disk) (inWorld w s) = result at hends hstale
  cases hends with
  | rootless hkept hroots' => cases hroots'.symm.trans hroots
  | @reused paths₁ b s' hroots' hstored hversions hget hbuild =>
      obtain rfl := Except.ok.inj (hroots'.symm.trans hroots)
      have hnew : before ≠ some b := by
        rintro hb
        have hagain : ∀ path ∈ paths, readWith disk paths₁ s path = readWith disk paths s path :=
          readWith_of_names hsame s
        have hsaid := sameVersions_of_names hsame hagain b.versions
        rw [h.stale b hb] at hsaid
        cases hsaid.symm.trans hversions
      refine ⟨⟨hstale, ?_⟩, fun b' hb' => Except.ok.inj hb' ▸ hnew⟩
      have hkept : s'.build = s.build := hbuild.trans hstored.symm
      rw [hkept]
      exact h.build
  | unfound hroots' hstale' hfound hget hbuild =>
      exact ⟨⟨hstale, hbuild ▸ h.build⟩, fun b hb => by cases hb⟩
  | unbuilt hroots' hstale' hroots'' hfound hget hprogram hbuild =>
      exact ⟨⟨hstale, hbuild ▸ h.build⟩, fun b hb => by cases hb⟩
  | @built paths₁ roots' w₁ w₂ w₃ found b s' hroots' hstale' hroots'' hfound hget hsources hprogram
      hversions hnumber hbuild =>
      have hlater : ∀ old, before = some old → old.number < b.number := by
        intro old hold
        rcases h.build with hsame | ⟨b', hb', hlater⟩
        · have hstored : (inWorld w s).build = some old := hsame.trans hold
          rw [hnumber, hstored]
          exact Nat.lt_succ_self _
        · have hstored : (inWorld w s).build = some b' := hb'
          rw [hnumber, hstored]
          exact Nat.lt_succ_of_lt (hlater old hold)
      refine ⟨⟨hstale, .inr ⟨b, hbuild, hlater⟩⟩, ?_⟩
      rintro b' hb' rfl
      obtain rfl := Except.ok.inj hb'
      exact Nat.lt_irrefl _ (hlater _ rfl)

theorem spent_askAgain (hcached : p.noCache = false) {paths : List Text} {before : Option Build}
    {worlds : List σ} (hnames : ∀ w ∈ worlds, Names p disk paths w)
    (h : Spent disk paths before s) : Spent disk paths before (askAgain p disk s worlds) := by
  induction worlds generalizing s with
  | nil => exact h
  | cons w worlds ih =>
      obtain ⟨hfirst, hrest⟩ := List.forall_mem_cons.mp hnames
      exact ih hrest (spent_program hcached h hfirst).1

theorem build_of_allFail {worlds : List σ} (h : AllFail p disk s worlds) :
    (askAgain p disk s worlds).build = s.build := by
  induction worlds generalizing s with
  | nil => rfl
  | cons w worlds ih =>
      obtain ⟨⟨failure, hfirst⟩, hrest⟩ := h
      have hstays := (withstands_of_error (Prod.ext hfirst rfl)).build
      exact (ih hrest).trans hstays

/-- Where creating a program fails, the versions of the source files stay other than those of the
program at hand. -/
theorem spent_of_error (hcached : p.noCache = false) {failure : Failure}
    (h : outcome (p.program disk) s = (.error failure, s')) {paths : List Text}
    (hroots : rootsAt p disk s.world = .ok paths) : Spent disk paths s.build s' := by
  have hnames : Names p disk paths s.world := ⟨paths, hroots, fun _ => Iff.rfl⟩
  have hread := readWith_program hcached hnames s
  have hends := program_ends hcached disk s
  have hwithin : outcome (p.program disk) (inWorld s.world s) = (.error failure, s') := h
  rw [hwithin] at hread
  rw [h] at hends
  have hstale : ∀ b, s.build = some b →
      Session.sameVersions (versionsAt disk paths s) b.versions = false := by
    cases hends with
    | rootless hkept hroots' => cases hroots'.symm.trans hroots
    | unfound hroots' hstale hfound hget hbuild =>
        obtain rfl := Except.ok.inj (hroots'.symm.trans hroots)
        exact hstale
    | unbuilt hroots' hstale hroots'' hfound hget hprogram hbuild =>
        obtain rfl := Except.ok.inj (hroots'.symm.trans hroots)
        exact hstale
  refine ⟨fun b hb => ?_, .inl (withstands_of_error h).build⟩
  exact (sameVersions_of_names (fun _ => Iff.rfl) hread b.versions).trans (hstale b hb)

theorem recreates_of_spent (hcached : p.noCache = false) {paths : List Text}
    (h : Spent disk paths s.build s) {w : σ} (hnames : Names p disk paths w) :
    Recreates p disk (inWorld w s) := by
  obtain ⟨paths', hroots, hsame⟩ := hnames
  obtain ⟨w', hfound⟩ := outcome_rootFiles p disk (inWorld w s)
  have hroots' : rootsAt p disk (inWorld w s).world = .ok paths' := hroots
  rw [hroots'] at hfound
  refine recreates_of_stale hfound rfl fun b hb => ?_
  rw [readAll_build] at hb
  rw [hcached, versionsOf_readAll]
  have hagain : ∀ path ∈ paths, readWith disk paths' s path = readWith disk paths s path :=
    readWith_of_names hsame s
  exact (sameVersions_of_names hsame hagain b.versions).trans (h.stale b hb)

/-- What is found depends on the disk alone, and what comes of a build on the sources alone. -/
structure Repeatable (tools : Tools σ) : Prop where
  discover : ∀ disk targets allowEmpty w w',
    (tools.discover disk targets allowEmpty w).1 = (tools.discover disk targets allowEmpty w').1
  build : ∀ sources w w', (tools.build sources w).1 = (tools.build sources w').1

theorem Repeatable.rootsAt_eq (h : Repeatable p.tools) (disk : Disk) (w w' : σ) :
    rootsAt p disk w = rootsAt p disk w' := by
  simp only [rootsAt, h.discover disk _ _ w w']

theorem Repeatable.sourcesAt_eq (h : Repeatable p.tools) (disk : Disk) (paths : List Text)
    (w w' : σ) : sourcesAt p disk paths w = sourcesAt p disk paths w' := by
  simp only [sourcesAt, h.discover disk _ _ w w']

theorem get?_prunedTo_again {paths : List Text} {q : Text}
    (h : s'.store.get? q = (prunedTo disk paths s q).or (first disk q)) :
    (prunedTo disk paths s' q).or (first disk q) = s'.store.get? q := by
  unfold prunedTo at h ⊢
  by_cases hkeep : (paths.contains q || disk.exists? q) = true
  · rw [if_pos hkeep] at h ⊢
    unfold readWith
    cases hget : s'.store.get? q with
    | some snapshot => rfl
    | none =>
        rw [hget] at h
        have hfirst : first disk q = none := (Option.or_eq_none_iff.mp h.symm).2
        simp [hfirst]
  · rw [if_neg hkeep] at h ⊢
    exact h.symm

theorem withText_known_again {paths : List Text} {found : List Source} {s'' : Session σ}
    (h : ∀ q, s'.store.get? q =
      (prunedTo disk paths s q).or (if q ∈ files p.directory found then first disk q else none))
    (hagain : ∀ q, s''.store.get? q =
      (prunedTo disk paths s' q).or (if q ∈ files p.directory found then first disk q else none)) :
    found.map (withText p.directory (known s''.store)) =
      found.map (withText p.directory (known s'.store)) := by
  refine List.map_congr_left fun source hsource => withText_congr fun file hfile => ?_
  have hmem : file ∈ files p.directory found := List.mem_filterMap.mpr ⟨source, hsource, hfile⟩
  have hfirst := h file
  have hsecond := hagain file
  rw [if_pos hmem] at hfirst hsecond
  rw [known, known, hsecond, get?_prunedTo_again hfirst]

theorem error_again (hcached : p.noCache = false) (htools : Repeatable p.tools) {failure : Failure}
    (h : outcome (p.program disk) s = (.error failure, s')) {paths : List Text}
    (hroots : rootsAt p disk s.world = .ok paths) (w : σ) :
    ∃ failure', (outcome (p.program disk) (inWorld w s')).1 = .error failure' := by
  have hroots' : rootsAt p disk (inWorld w s').world = .ok paths :=
    (htools.rootsAt_eq disk _ _).trans hroots
  have hnames : Names p disk paths w := ⟨paths, hroots', fun _ => Iff.rfl⟩
  have hnew := (spent_program hcached (spent_of_error hcached h hroots) hnames).2
  have hfirst := program_ends hcached disk s
  have hsecond := program_ends hcached disk (inWorld w s')
  have hstays := (withstands_of_error h).build
  rw [h] at hfirst
  generalize outcome (p.program disk) (inWorld w s') = result at hsecond hnew ⊢
  cases hsecond with
  | rootless | unfound | unbuilt => exact ⟨_, rfl⟩
  | @reused paths₁ b s'' hroots₁ hstored hversions hget hbuild =>
      exact absurd (hstays.symm.trans hstored) (hnew b rfl)
  | @built paths₁ roots' w₁ w₂ w₃ found b s'' hroots₁ hstale hroots₂ hfound hget hsources hprogram
      hversions hnumber hbuild =>
      exfalso
      cases hfirst with
      | rootless hkept hroots₁' => cases hroots₁'.symm.trans hroots
      | @unfound paths₁' w₁' w₂' _ _ hroots₁' hstale' hfound' hget' hbuild' =>
          rw [htools.rootsAt_eq disk w₁' w₁, hroots₂] at hfound'
          have hsame := (htools.sourcesAt_eq disk roots' w₂' w₂).trans hfound
          cases hsame.symm.trans hfound'
      | @unbuilt paths₁' roots'' w₁' w₂' w₃' found' _ _ hroots₁' hstale' hroots₂' hfound' hget'
          hprogram' hbuild' =>
          obtain rfl := Except.ok.inj (hroots₁.symm.trans hroots')
          obtain rfl := Except.ok.inj (hroots₁'.symm.trans hroots)
          obtain rfl := Except.ok.inj
            ((hroots₂.symm.trans (htools.rootsAt_eq disk w₁ w₁')).trans hroots₂')
          obtain rfl := Except.ok.inj
            ((hfound.symm.trans (htools.sourcesAt_eq disk roots' w₂ w₂')).trans hfound')
          rw [hsources, withText_known_again hget' hget, htools.build _ w₃ w₃',
            hprogram'] at hprogram
          cases hprogram

theorem allFail_of_error (hcached : p.noCache = false) (htools : Repeatable p.tools)
    {failure : Failure} (h : outcome (p.program disk) s = (.error failure, s')) {paths : List Text}
    (hroots : rootsAt p disk s.world = .ok paths) (worlds : List σ) : AllFail p disk s' worlds := by
  induction worlds generalizing s s' failure with
  | nil => trivial
  | cons w worlds ih =>
      obtain ⟨failure', hagain⟩ := error_again hcached htools h hroots w
      have hroots' : rootsAt p disk (inWorld w s').world = .ok paths :=
        (htools.rootsAt_eq disk _ _).trans hroots
      exact ⟨⟨failure', hagain⟩, ih (Prod.ext hagain rfl) hroots'⟩

/-- What a failed query leaves behind. A check of a file that does not exist and a check of the
changed files without version control leave the session as it was. Where asking for the program
fails, the program at hand stays with its versions, no snapshot of a source file is lost, and no
program is said to be ready. In a session that keeps snapshots, further calls for the same source
files never give out the program at hand before; each of them comes to creating a program as long
as none has succeeded, and none succeeds where the tools find and build the same again. -/
theorem sound_after_failure (hmissing : BuildsSpare .sourceNotFound p.tools)
    (hcontrol : BuildsSpare .notVersionControlled p.tools) (disk : Disk) (s : Session σ) :
    (∀ file, Raises .sourceNotFound (outcome (p.checkFile disk file) s).1 →
        Kept s (outcome (p.checkFile disk file) s).2) ∧
      (∀ extensions, Raises .notVersionControlled
          (outcome (p.checkChanged (Change.changedFiles p extensions) disk) s).1 →
        Kept s (outcome (p.checkChanged (Change.changedFiles p extensions) disk) s).2) ∧
      ∀ failure s', outcome (p.program disk) s = (.error failure, s') →
        Withstands p disk s s' ∧
          (p.noCache = false → ∀ paths, rootsAt p disk s.world = .ok paths →
            ∀ worlds w, (∀ w' ∈ w :: worlds, Names p disk paths w') →
              (AllFail p disk s' worlds →
                Recreates p disk (inWorld w (askAgain p disk s' worlds))) ∧
              (∀ b, (outcome (p.program disk) (inWorld w (askAgain p disk s' worlds))).1 = .ok b →
                s.build ≠ some b) ∧
              (Repeatable p.tools → AllFail p disk s' worlds)) := by
  refine ⟨fun file => kept_checkFile hmissing,
    fun extensions => kept_checkChanged hcontrol (keeps_changedFiles p extensions disk), ?_⟩
  intro failure s' hfailed
  refine ⟨withstands_of_error hfailed, fun hcached paths hroots worlds w hnames => ?_⟩
  obtain ⟨hlast, hfirst⟩ := List.forall_mem_cons.mp hnames
  have hspent := spent_askAgain hcached hfirst (spent_of_error hcached hfailed hroots)
  refine ⟨fun hfail => ?_, (spent_program hcached hspent hlast).2,
    fun htools => allFail_of_error hcached htools hfailed hroots worlds⟩
  have hbuild : (askAgain p disk s' worlds).build = s.build :=
    (build_of_allFail hfail).trans (withstands_of_error hfailed).build
  exact recreates_of_spent hcached (hbuild ▸ hspent) hlast

open FreshAnswers (alone aloneDisk)

/-- The project with one file, where the search for the sources of the second program fails. -/
def shaky : Project Rehearsal.World :=
  { alone with tools := Rehearsal.tools { failingSearch := some (6, ['x']) } {} }

theorem buildsSpare_shaky (kind : FaultKind) : BuildsSpare kind shaky.tools :=
  fun sources w cause hfailed => absurd hfailed
    (RootChecks.build_ne_fault { failingSearch := some (6, ['x']) } sources w cause)

/-- The disk with another text in its file. -/
def rewritten : Disk := ⟨[(['a', '.', 'p', 'y'], .file (Text.toBytes ['y']) 0)]⟩

def shakyRoots : List Text := [['/', 'a', '.', 'p', 'y']]

/-- A session with a program at hand that has learnt of the other text since. -/
def stocked : Session Rehearsal.World :=
  (outcome (shaky.program aloneDisk) { world := {} }).2.refresh rewritten
    ['/', 'a', '.', 'p', 'y'] false

/-- The session after the next call for the program, which fails. -/
def shaken : Session Rehearsal.World := (outcome (shaky.program rewritten) stocked).2

theorem program_shaky : ∃ failure,
    outcome (shaky.program rewritten) stocked = (.error failure, shaken) := by
  have hnumber : ((outcome (shaky.program rewritten) stocked).1.map (·.number)) =
      .error (.fault (.sourcesNotCollected ['x'] none)) := by decide +kernel
  cases hanswer : (outcome (shaky.program rewritten) stocked).1 with
  | ok b =>
      rw [hanswer] at hnumber
      cases hnumber
  | error failure => exact ⟨failure, Prod.ext hanswer rfl⟩

theorem sound_after_failure_shaky :
    stocked.build.map (·.number) = some 1 ∧
      Kept stocked (outcome (shaky.checkFile rewritten ['b', '.', 'p', 'y']) stocked).2 ∧
      Withstands shaky rewritten stocked shaken ∧
      Recreates shaky rewritten (inWorld shaken.world shaken) ∧
      ∃ b, (outcome (shaky.program rewritten) (inWorld shaken.world shaken)).1 = .ok b ∧
        stocked.build ≠ some b := by
  have hmissed : (outcome (shaky.checkFile rewritten ['b', '.', 'p', 'y']) stocked).1 =
      .error (.fault (.fileNotFound ['/', 'b', '.', 'p', 'y'])) := by decide +kernel
  have hroots : rootsAt shaky rewritten stocked.world = .ok shakyRoots := by decide +kernel
  have hagain : rootsAt shaky rewritten shaken.world = .ok shakyRoots := by decide +kernel
  have hanswer : (outcome (shaky.program rewritten) (inWorld shaken.world shaken)).1.map
      (·.number) = .ok 2 := by decide +kernel
  obtain ⟨b, hb, -⟩ := exists_of_map_eq_ok hanswer
  obtain ⟨failure, hfailed⟩ := program_shaky
  obtain ⟨hfile, -, hprogram⟩ := sound_after_failure (buildsSpare_shaky .sourceNotFound)
    (buildsSpare_shaky .notVersionControlled) rewritten stocked
  obtain ⟨hwithstands, hcached⟩ := hprogram failure shaken hfailed
  obtain ⟨hrecreates, hnew, -⟩ := hcached rfl shakyRoots hroots [] shaken.world
    (List.forall_mem_singleton.mpr ⟨shakyRoots, hagain, fun _ => Iff.rfl⟩)
  exact ⟨by decide +kernel, hfile _ ⟨_, hmissed, rfl⟩, hwithstands, hrecreates trivial, b, hb,
    hnew b hb⟩

/-- The session after another call for the program, which succeeds. -/
def recovered : Session Rehearsal.World := askAgain shaky rewritten shaken [shaken.world]

/-- Once a call has succeeded again, the next does not come to creating a program. -/
theorem not_recreates_recovered :
    (∃ failure, outcome (shaky.program rewritten) stocked = (.error failure, shaken)) ∧
      rootsAt shaky rewritten stocked.world = .ok shakyRoots ∧
      (∀ w ∈ [shaken.world, recovered.world], Names shaky rewritten shakyRoots w) ∧
      ¬ Recreates shaky rewritten (inWorld recovered.world recovered) := by
  have hroots : rootsAt shaky rewritten stocked.world = .ok shakyRoots := by decide +kernel
  have hfirst : rootsAt shaky rewritten shaken.world = .ok shakyRoots := by decide +kernel
  have hsecond : rootsAt shaky rewritten recovered.world = .ok shakyRoots := by decide +kernel
  refine ⟨program_shaky, hroots, ?_, fun hrecreates => ?_⟩
  · simp only [List.mem_cons, List.not_mem_nil, or_false, forall_eq_or_imp, forall_eq]
    exact ⟨⟨shakyRoots, hfirst, fun _ => Iff.rfl⟩, ⟨shakyRoots, hsecond, fun _ => Iff.rfl⟩⟩
  · have hstored : recovered.build.map (·.number) = some 2 := by decide +kernel
    have hthird : ((outcome (shaky.program rewritten) (inWorld recovered.world recovered)).1.map
        (·.number)) = .ok 2 := by decide +kernel
    obtain ⟨b, hanswer, htwo⟩ := exists_of_map_eq_ok hthird
    have hnumber := number_of_recreates hrecreates hanswer
    have hbuild : (inWorld recovered.world recovered).build = recovered.build := rfl
    rw [hbuild, hstored, htwo] at hnumber
    cases hnumber

end Recheck.Proofs.FailedQueries
