import Recheck.Session

/-!
What a session knows of a file. Reading a file for the first time never touches a snapshot that
is there, reading it again keeps the text with the version, and only pruning takes a snapshot
away.
-/

namespace Recheck.Proofs.Snapshots

open Recheck.SnapshotStore

theorem path_of_get? {store : SnapshotStore} {path : Text} {s : Snapshot}
    (h : store.get? path = some s) : s.path = path := by
  simpa using List.find?_some h

theorem renew_path (content : Text) (force : Bool) (s : Snapshot) :
    (renew content force s).path = s.path := by
  unfold renew
  split <;> rfl

theorem renew_content (content : Text) (force : Bool) (s : Snapshot) :
    (renew content force s).content = content := by
  unfold renew
  split
  · next h => simpa using (Bool.and_eq_true_iff.mp h).1
  · rfl

theorem get?_update (store : SnapshotStore) (path content : Text) (force : Bool) (q : Text) :
    (store.update path content force).get? q =
      if q = path then some (((store.get? path).map (renew content force)).getD ⟨path, 0, content⟩)
      else store.get? q := by
  unfold update contains get?
  cases hpath : store.snapshots.find? (·.path = path) with
  | none =>
      have hq : q = path → store.snapshots.find? (·.path = q) = none := fun h => h ▸ hpath
      by_cases h : q = path
      · simp [h, hpath, List.find?_append]
      · have hne : ¬ path = q := fun h' => h h'.symm
        simp [h, hne, List.find?_append]
  | some s =>
      have hkeep : ∀ s : Snapshot,
          (if s.path = path then renew content force s else s).path = s.path := by
        intro s
        split
        · exact renew_path content force s
        · rfl
      simp only [Option.isSome_some, if_true, List.find?_map, Function.comp_def, hkeep]
      by_cases h : q = path
      · have hs : s.path = path := by simpa using List.find?_some hpath
        simp [h, hpath, hs]
      · cases hq : store.snapshots.find? (·.path = q) with
        | none => simp [h]
        | some s' =>
            have hs' : s'.path = q := by simpa using List.find?_some hq
            simp [h, hs']

theorem get?_prune (store : SnapshotStore) (keep : Text → Bool) (q : Text) :
    (store.prune keep).get? q = if keep q then store.get? q else none := by
  unfold prune get?
  rw [List.find?_filter]
  by_cases h : keep q
  · simp only [h, if_true]
    congr 1
    funext s
    by_cases hs : s.path = q <;> simp [hs, h]
  · simp only [h, Bool.false_eq_true, if_false, List.find?_eq_none]
    rintro s - hs
    obtain ⟨hkeep, hpath⟩ : keep s.path = true ∧ s.path = q := by simpa using hs
    exact h (hpath ▸ hkeep)

/-- What a store knows of a path is still there, and unless it is the same it has a higher
version. -/
def GrowsAt (path : Text) (store store' : SnapshotStore) : Prop :=
  ∀ s, store.get? path = some s → ∃ s', store'.get? path = some s' ∧ s.version ≤ s'.version ∧
    (s'.version = s.version → s'.content = s.content)

theorem growsAt_of_eq {path : Text} {store store' : SnapshotStore}
    (h : store'.get? path = store.get? path) : GrowsAt path store store' :=
  fun s hs => ⟨s, by rw [h, hs], Nat.le_refl _, fun _ => rfl⟩

theorem GrowsAt.trans {path : Text} {store store' store'' : SnapshotStore}
    (h : GrowsAt path store store') (h' : GrowsAt path store' store'') :
    GrowsAt path store store'' := by
  intro s hs
  obtain ⟨s', hs', hle, heq⟩ := h s hs
  obtain ⟨s'', hs'', hle', heq'⟩ := h' s' hs'
  refine ⟨s'', hs'', Nat.le_trans hle hle', fun hversion => ?_⟩
  have hversion' : s'.version = s.version := by omega
  exact (heq' (by omega)).trans (heq hversion')

theorem growsAt_update (store : SnapshotStore) (path content : Text) (force : Bool) (q : Text) :
    GrowsAt q store (store.update path content force) := by
  intro s hs
  rw [get?_update]
  by_cases h : q = path
  · subst h
    refine ⟨renew content force s, by simp [hs], ?_⟩
    unfold renew
    split
    · exact ⟨Nat.le_refl _, fun _ => rfl⟩
    · exact ⟨Nat.le_succ _, fun h => absurd h (Nat.succ_ne_self _)⟩
  · exact ⟨s, by simp [h, hs], Nat.le_refl _, fun _ => rfl⟩

/-- The text of a path that a store knows. -/
def known (store : SnapshotStore) (path : Text) : Option Text :=
  (store.get? path).map (·.content)

section

variable {σ : Type} {directory : Text}

/-- The snapshot that the first reading of a file gives. -/
def first (disk : Disk) (path : Text) : Option Snapshot :=
  (disk.text? path).map fun content => ⟨path, 0, content⟩

theorem isFile_of_text? {disk : Disk} {path content : Text} (h : disk.text? path = some content) :
    disk.isFile path = true := by
  unfold Disk.text? Disk.bytes? at h
  unfold Disk.isFile
  split at h
  · next hnode => simp [hnode, Node.isFile]
  · simp at h

theorem exists?_of_isFile {disk : Disk} {path : Text} (h : disk.isFile path = true) :
    disk.exists? path = true := by
  unfold Disk.isFile at h
  unfold Disk.exists?
  cases hnode : disk.node? path with
  | none => simp [hnode] at h
  | some node => rfl

theorem known_refresh {disk : Disk} {path content : Text} (h : disk.text? path = some content)
    (force : Bool) (s : Session σ) :
    known (s.refresh disk path force).store path = some content := by
  simp only [Session.refresh, h, known, get?_update, if_true, Option.map_some]
  cases s.store.get? path with
  | none => rfl
  | some snapshot => exact congrArg some (renew_content content force snapshot)

theorem growsAt_refresh (disk : Disk) (path : Text) (force : Bool) (s : Session σ) (q : Text) :
    GrowsAt q s.store (s.refresh disk path force).store := by
  unfold Session.refresh
  cases disk.text? path with
  | none => exact growsAt_of_eq rfl
  | some content => exact growsAt_update s.store path content force q

theorem get?_refresh_of_ne {q path : Text} (h : q ≠ path) (disk : Disk) (force : Bool)
    (s : Session σ) : (s.refresh disk path force).store.get? q = s.store.get? q := by
  unfold Session.refresh
  cases disk.text? path with
  | none => rfl
  | some content => simp [get?_update, h]

theorem get?_ensureRead (disk : Disk) (path : Text) (s : Session σ) (q : Text) :
    (s.ensureRead disk path).store.get? q =
      (s.store.get? q).or (if q = path then first disk q else none) := by
  unfold Session.ensureRead
  by_cases h : q = path
  · subst h
    cases hq : s.store.get? q with
    | some snapshot => simp [contains, hq]
    | none =>
        cases htext : disk.text? q with
        | some content =>
            simp [contains, hq, isFile_of_text? htext, Session.refresh, htext, get?_update, first]
        | none =>
            split <;> simp [hq, Session.refresh, htext, first, Session.log, Session.note]
  · rw [if_neg h, Option.or_none]
    split
    · rfl
    · exact get?_refresh_of_ne h disk false s

theorem or_reading (known : Option Snapshot) (disk : Disk) (q path : Text) (paths : List Text) :
    ((known.or (if q = path then first disk q else none)).or
      (if q ∈ paths then first disk q else none)) =
    known.or (if q = path ∨ q ∈ paths then first disk q else none) := by
  cases known with
  | some snapshot => rfl
  | none =>
      by_cases h : q = path
      · cases first disk q <;> simp [h]
      · simp [h]

theorem get?_readAll (disk : Disk) (paths : List Text) (s : Session σ) (q : Text) :
    (s.readAll disk false paths).store.get? q =
      (s.store.get? q).or (if q ∈ paths then first disk q else none) := by
  induction paths generalizing s with
  | nil => simp [Session.readAll]
  | cons path paths ih =>
      have hcons : s.readAll disk false (path :: paths) =
          (s.ensureRead disk path).readAll disk false paths := rfl
      simp only [hcons, ih, get?_ensureRead, List.mem_cons]
      exact or_reading (s.store.get? q) disk q path paths

theorem growsAt_readAll (disk : Disk) (paths : List Text) (s : Session σ) (q : Text) :
    GrowsAt q s.store (s.readAll disk false paths).store := by
  intro snapshot h
  exact ⟨snapshot, by rw [get?_readAll, h, Option.some_or], Nat.le_refl _, fun _ => rfl⟩

/-- The file of a source that has one. -/
def fileOf (directory : Text) (source : Source) : Option Text :=
  (source.path.filter (!·.isEmpty)).map (Path.normalize directory)

def files (directory : Text) (sources : List Source) : List Text :=
  sources.filterMap (fileOf directory)

theorem files_eq (sources : List Source) :
    files directory sources = (Project.sourcePaths sources).map (Path.normalize directory) := by
  simp only [files, Project.sourcePaths, List.filter_filterMap, List.map_filterMap]
  rfl

/-- A source with the text of its file, if it has one. -/
def withText (directory : Text) (text : Text → Option Text) (source : Source) : Source :=
  match fileOf directory source with
  | none => source
  | some file => { source with text := text file }

theorem withTexts_cons_of_none {source : Source} (h : fileOf directory source = none) (disk : Disk)
    (sources : List Source) (s : Session σ) :
    Session.withTexts directory disk (source :: sources) s =
      (source :: (Session.withTexts directory disk sources s).1,
        (Session.withTexts directory disk sources s).2) := by
  rcases source with ⟨_ | _ | ⟨c, path⟩, module, text⟩
  · rfl
  · rfl
  · simp [fileOf] at h

theorem withTexts_cons_of_some {source : Source} {file : Text}
    (h : fileOf directory source = some file)
    (disk : Disk) (sources : List Source) (s : Session σ) :
    Session.withTexts directory disk (source :: sources) s =
      ({ source with text := known (s.ensureRead disk file).store file } ::
          (Session.withTexts directory disk sources (s.ensureRead disk file)).1,
        (Session.withTexts directory disk sources (s.ensureRead disk file)).2) := by
  rcases source with ⟨_ | _ | ⟨c, path⟩, module, text⟩
  · simp [fileOf] at h
  · simp [fileOf] at h
  · obtain rfl := Option.some.inj h
    rfl

theorem get?_withTexts (disk : Disk) (sources : List Source) (s : Session σ) (q : Text) :
    (Session.withTexts directory disk sources s).2.store.get? q =
      (s.store.get? q).or (if q ∈ files directory sources then first disk q else none) := by
  induction sources generalizing s with
  | nil => simp [Session.withTexts, files]
  | cons source sources ih =>
      cases h : fileOf directory source with
      | none =>
          rw [withTexts_cons_of_none h, ih]
          simp [files, h]
      | some file =>
          rw [withTexts_cons_of_some h]
          simp only [ih, get?_ensureRead, files, List.filterMap_cons, h, List.mem_cons]
          exact or_reading (s.store.get? q) disk q file (sources.filterMap (fileOf directory))

theorem withTexts_eq (disk : Disk) (sources : List Source) (s : Session σ) :
    (Session.withTexts directory disk sources s).1 =
      sources.map (withText directory
        (known (Session.withTexts directory disk sources s).2.store)) := by
  induction sources generalizing s with
  | nil => rfl
  | cons source sources ih =>
      cases h : fileOf directory source with
      | none =>
          have hsource : ∀ text, withText directory text source = source := by simp [withText, h]
          rw [withTexts_cons_of_none h, List.map_cons, hsource, ih]
      | some file =>
          have hsource : ∀ text, withText directory text source =
              { source with text := text file } := by
            simp [withText, h]
          have hfile : known (s.ensureRead disk file).store file =
              known (Session.withTexts directory disk sources
                (s.ensureRead disk file)).2.store file := by
            simp only [known, get?_withTexts, get?_ensureRead, if_true]
            cases s.store.get? file <;> cases first disk file <;> simp
          rw [withTexts_cons_of_some h, List.map_cons, hsource, ← hfile, ih]

end

end Recheck.Proofs.Snapshots
