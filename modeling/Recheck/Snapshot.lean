import Recheck.Text

/-!
# Snapshots

A store holds the last text of every file that a session has read, with a version. The first
text of a path has version zero; a version grows when the text changes, or when it is forced to.
-/

namespace Recheck

/-- The text of a file at one version. -/
structure Snapshot where
  path : Text
  version : Nat
  content : Text
  deriving DecidableEq, Repr

/-- Snapshots, at most one for a path, in the order in which the paths came. -/
structure SnapshotStore where
  snapshots : List Snapshot := []
  deriving DecidableEq, Repr

namespace SnapshotStore

def get? (store : SnapshotStore) (path : Text) : Option Snapshot :=
  store.snapshots.find? (·.path = path)

def version? (store : SnapshotStore) (path : Text) : Option Nat :=
  (store.get? path).map (·.version)

def contains (store : SnapshotStore) (path : Text) : Bool := (store.get? path).isSome

def paths (store : SnapshotStore) : List Text := store.snapshots.map (·.path)

def versions (store : SnapshotStore) : List (Text × Nat) :=
  store.snapshots.map fun s => (s.path, s.version)

def size (store : SnapshotStore) : Nat := store.snapshots.length

/-- The snapshot after an update: one version up if the text is another or the update is
forced, and unchanged otherwise. -/
def renew (content : Text) (force : Bool) (s : Snapshot) : Snapshot :=
  if s.content = content && !force then s
  else { s with version := s.version + 1, content }

/-- The store with the text of a path recorded. -/
def update (store : SnapshotStore) (path content : Text) (force : Bool) : SnapshotStore :=
  if store.contains path then
    ⟨store.snapshots.map fun s => if s.path = path then renew content force s else s⟩
  else ⟨store.snapshots ++ [⟨path, 0, content⟩]⟩

/-- The store without the snapshots whose paths are not to be kept. -/
def prune (store : SnapshotStore) (keep : Text → Bool) : SnapshotStore :=
  ⟨store.snapshots.filter fun s => keep s.path⟩

/-- The paths that are not to be kept. -/
def dropped (store : SnapshotStore) (keep : Text → Bool) : List Text :=
  store.paths.filter fun path => !keep path

end SnapshotStore

end Recheck
