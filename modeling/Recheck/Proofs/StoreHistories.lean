import Recheck.Proofs.Snapshots

/-!
Versions in the history of a store. As long as a path is not dropped its versions grow, and each
of them stands for one text; where it was dropped they start over.
-/

namespace Recheck.Proofs.StoreHistories

open Recheck.SnapshotStore
open Recheck.Proofs.Snapshots

inductive Operation
  | update (path content : Text) (force : Bool)
  | prune (keep : Text → Bool)

namespace Operation

def perform (store : SnapshotStore) : Operation → SnapshotStore
  | update path content force => store.update path content force
  | prune keep => store.prune keep

def updates (path : Text) : Operation → Bool
  | update q _ _ => q = path
  | prune _ => false

def drops (path : Text) : Operation → Bool
  | update _ _ _ => false
  | prune keep => !keep path

end Operation

open Operation

def run (store : SnapshotStore) (history : List Operation) : SnapshotStore :=
  history.foldl perform store

/-- Some pruning of a history does not keep the path. -/
def Drops (path : Text) (history : List Operation) : Prop := history.any (drops path)

/-- The version that an update returns at the end of a history of an empty store. -/
def Returns (history : List Operation) (path content : Text) (force : Bool) (version : Nat) :
    Prop :=
  (run {} (history ++ [.update path content force])).version? path = some version

@[simp]
theorem run_nil (store : SnapshotStore) : run store [] = store := rfl

@[simp]
theorem run_cons (store : SnapshotStore) (op : Operation) (history : List Operation) :
    run store (op :: history) = run (op.perform store) history := rfl

theorem run_append (store : SnapshotStore) (history more : List Operation) :
    run store (history ++ more) = run (run store history) more :=
  List.foldl_append

@[simp]
theorem drops_nil (path : Text) : ¬ Drops path [] := by simp [Drops]

@[simp]
theorem drops_cons (path : Text) (op : Operation) (history : List Operation) :
    Drops path (op :: history) ↔ op.drops path = true ∨ Drops path history := by
  simp [Drops]

theorem get?_perform {path : Text} {op : Operation} (hother : op.updates path = false)
    (store : SnapshotStore) :
    (op.perform store).get? path = if op.drops path then none else store.get? path := by
  cases op with
  | update q content force =>
      have hne : path ≠ q := by
        rintro rfl
        simp [updates] at hother
      simp [perform, drops, get?_update, hne]
  | prune keep =>
      rw [perform, get?_prune]
      cases hkeep : keep path <;> simp [drops, hkeep]

theorem growsAt_perform {path : Text} {op : Operation} (h : op.drops path = false)
    (store : SnapshotStore) : GrowsAt path store (op.perform store) := by
  cases op with
  | update q content force => exact growsAt_update store q content force path
  | prune keep =>
      apply growsAt_of_eq
      rw [get?_perform rfl, if_neg (by simp [h])]

theorem growsAt_run {path : Text} {history : List Operation} (h : ¬ Drops path history)
    (store : SnapshotStore) : GrowsAt path store (run store history) := by
  induction history generalizing store with
  | nil => exact growsAt_of_eq rfl
  | cons op history ih =>
      rw [drops_cons, not_or, Bool.not_eq_true] at h
      exact (growsAt_perform h.1 store).trans (ih h.2 (op.perform store))

theorem get?_run_of_none {path : Text} {history : List Operation}
    (hother : ∀ op ∈ history, op.updates path = false) {store : SnapshotStore}
    (h : store.get? path = none) : (run store history).get? path = none := by
  induction history generalizing store with
  | nil => exact h
  | cons op history ih =>
      obtain ⟨hop, hrest⟩ := List.forall_mem_cons.mp hother
      apply ih hrest
      rw [get?_perform hop, h, ite_self]

theorem get?_run_of_not_drops {path : Text} {history : List Operation}
    (hother : ∀ op ∈ history, op.updates path = false) (h : ¬ Drops path history)
    (store : SnapshotStore) : (run store history).get? path = store.get? path := by
  induction history generalizing store with
  | nil => rfl
  | cons op history ih =>
      obtain ⟨hop, hrest⟩ := List.forall_mem_cons.mp hother
      rw [drops_cons, not_or] at h
      rw [run_cons, ih hrest h.2, get?_perform hop, if_neg h.1]

theorem get?_run_of_drops {path : Text} {history : List Operation}
    (hother : ∀ op ∈ history, op.updates path = false) (h : Drops path history)
    (store : SnapshotStore) : (run store history).get? path = none := by
  induction history generalizing store with
  | nil => exact absurd h (drops_nil path)
  | cons op history ih =>
      obtain ⟨hop, hrest⟩ := List.forall_mem_cons.mp hother
      rcases (drops_cons path op history).mp h with hdrops | hdrops
      · apply get?_run_of_none hrest
        rw [get?_perform hop, if_pos hdrops]
      · exact ih hrest hdrops (op.perform store)

/-- The version of a snapshot after an update with a text, where there was one before. -/
def nextVersion (before : Option Snapshot) (content : Text) (force : Bool) : Nat :=
  before.elim 0 fun s => (renew content force s).version

theorem returns_iff {history : List Operation} {path content : Text} {force : Bool}
    {version : Nat} : Returns history path content force version ↔
      version = nextVersion ((run {} history).get? path) content force := by
  rw [Returns, run_append, run_cons, run_nil, perform, version?, get?_update, if_pos rfl]
  cases (run {} history).get? path <;> simp [nextVersion, eq_comm]

theorem get?_run_update (history : List Operation) (path content : Text) (force : Bool) :
    ∃ s, (run {} (history ++ [.update path content force])).get? path = some s ∧
      s.content = content := by
  rw [run_append, run_cons, run_nil, perform, get?_update, if_pos rfl]
  cases (run {} history).get? path with
  | none => exact ⟨_, rfl, rfl⟩
  | some s => exact ⟨_, rfl, renew_content content force s⟩

theorem exists_returns {between : List Operation} {path : Text}
    (hother : ∀ op ∈ between, op.updates path = false) (before : List Operation)
    (content content' : Text) (force force' : Bool) :
    ∃ v v', Returns before path content force v ∧
      Returns (before ++ .update path content force :: between) path content' force' v' ∧
      (Drops path between → v' = 0) ∧
      (¬ Drops path between → v' = if content' = content && !force' then v else v + 1) := by
  obtain ⟨s, hs, rfl⟩ := get?_run_update before path content force
  have hsplit : before ++ .update path s.content force :: between =
      (before ++ [.update path s.content force]) ++ between := by simp
  refine ⟨s.version, _, by simp [Returns, version?, hs], returns_iff.mpr rfl, ?_, ?_⟩
  · intro hdrops
    rw [hsplit, run_append, get?_run_of_drops hother hdrops]
    rfl
  · intro hkept
    rw [hsplit, run_append, get?_run_of_not_drops hother hkept, hs]
    by_cases hcontent : content' = s.content <;> cases force' <;>
      simp [nextVersion, renew, hcontent, eq_comm]

/-- Of two successive updates of a path, the second returns no smaller version, and a larger one
for another text, exactly if the path was not dropped in between, or the first returned version
zero and the text is the same. While a path is not dropped, each version of it stands for one
text. -/
theorem versions_grow_iff (path : Text) :
    (∀ before between content content' force force',
      (∀ op ∈ between, op.updates path = false) →
      ∃ v v', Returns before path content force v ∧
        Returns (before ++ .update path content force :: between) path content' force' v' ∧
        ((v ≤ v' ∧ (content' ≠ content → v < v')) ↔
          (Drops path between → v = 0 ∧ content' = content))) ∧
    ∀ before between s s', ¬ Drops path between → (run {} before).get? path = some s →
      (run {} (before ++ between)).get? path = some s' →
        s.version ≤ s'.version ∧ (s'.version = s.version → s'.content = s.content) := by
  constructor
  · intro before between content content' force force' hother
    obtain ⟨v, v', hv, hv', hdropped, hkept⟩ :=
      exists_returns hother before content content' force force'
    refine ⟨v, v', hv, hv', ?_⟩
    by_cases hdrops : Drops path between
    · rw [hdropped hdrops]
      simp [hdrops]
    · rw [hkept hdrops]
      by_cases hcontent : content' = content <;> cases force' <;> simp [hdrops, hcontent]
  · intro before between s s' hkept hs hs'
    obtain ⟨s'', hs'', hgrown⟩ := growsAt_run hkept (run {} before) s hs
    rw [← run_append] at hs''
    obtain rfl := Option.some.inj (hs'.symm.trans hs'')
    exact hgrown

/-- Another file is read, and all but the first one are dropped. -/
def others : List Operation := [.update ['b'] ['z'] true, .prune (· == ['a'])]

theorem versions_grow_iff_others :
    (∀ op ∈ others, op.updates ['a'] = false) ∧ ¬ Drops ['a'] others ∧
      (∃ v v', Returns [] ['a'] ['x'] false v ∧
        Returns (.update ['a'] ['x'] false :: others) ['a'] ['y'] false v' ∧ v < v') ∧
      (run {} [.update ['a'] ['x'] false]).get? ['a'] = some ⟨['a'], 0, ['x']⟩ ∧
      (run {} (.update ['a'] ['x'] false :: others ++ [.update ['a'] ['y'] true])).get? ['a'] =
        some ⟨['a'], 1, ['y']⟩ ∧ 0 ≤ 1 := by
  have hother : ∀ op ∈ others, op.updates ['a'] = false := by simp [others, updates]
  have hkept : ¬ Drops ['a'] others := by simp [others, drops]
  have hkept' : ¬ Drops ['a'] (others ++ [.update ['a'] ['y'] true]) := by simp [others, drops]
  obtain ⟨hsuccessive, hgrown⟩ := versions_grow_iff ['a']
  obtain ⟨v, v', hv, hv', hiff⟩ := hsuccessive [] others ['x'] ['y'] false false hother
  have hlt : v < v' := (hiff.mpr fun hdrops => absurd hdrops hkept).2 (by simp)
  exact ⟨hother, hkept, ⟨v, v', hv, hv', hlt⟩, rfl, rfl,
    (hgrown [.update ['a'] ['x'] false] _ ⟨['a'], 0, ['x']⟩ ⟨['a'], 1, ['y']⟩ hkept' rfl rfl).1⟩

/-- A file gets two texts and is dropped. -/
def dropped : List Operation :=
  [.update ['a'] ['x'] false, .update ['a'] ['y'] false, .prune fun _ => false]

/-- The file comes back with a third text: its version is smaller than the previous one, and stood
for the first text before. -/
theorem not_versions_grow_dropped :
    Returns [.update ['a'] ['x'] false] ['a'] ['y'] false 1 ∧
      Returns dropped ['a'] ['z'] false 0 ∧
      (run {} [.update ['a'] ['x'] false]).get? ['a'] = some ⟨['a'], 0, ['x']⟩ ∧
      (run {} (dropped ++ [.update ['a'] ['z'] false])).get? ['a'] = some ⟨['a'], 0, ['z']⟩ :=
  ⟨rfl, rfl, rfl, rfl⟩

end Recheck.Proofs.StoreHistories
