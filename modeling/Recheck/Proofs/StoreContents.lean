import Mathlib.Data.List.DropRight
import Mathlib.Data.List.Induction
import Recheck.Proofs.StoreHistories

/-!
What a store holds at the end of a history, told from the history alone: the paths that were updated
since they were last dropped, from the one that came first on, each with its latest text and the
number of updates that found another text or were forced.
-/

namespace Recheck.Proofs.StoreContents

open Recheck.SnapshotStore
open Recheck.Proofs.Snapshots
open Recheck.Proofs.StoreHistories
open Recheck.Proofs.StoreHistories.Operation (perform updates drops)

/-- The path was updated and not dropped since. -/
def Lives (path : Text) (history : List Operation) : Prop :=
  ∃ before content force after, history = before ++ .update path content force :: after ∧
    ¬ Drops path after

/-- The operations since the last one that dropped the path. -/
def since (path : Text) (history : List Operation) : List Operation :=
  history.rtakeWhile fun op => !op.drops path

/-- The operations since the path came, from the update on with which it came. -/
def lifetime (path : Text) (history : List Operation) : List Operation :=
  (since path history).dropWhile fun op => !op.updates path

/-- The text that an operation writes to the path, and whether it is forced. -/
def written? (path : Text) : Operation → Option (Text × Bool)
  | .update q content force => if q = path then some (content, force) else none
  | .prune _ => none

/-- The updates of the path since it came. -/
def writings (path : Text) (history : List Operation) : List (Text × Bool) :=
  (lifetime path history).filterMap (written? path)

/-- The number of updates behind the first that were forced or brought another text. -/
def growth (writings : List (Text × Bool)) : Nat :=
  (writings.zip writings.tail).countP fun (previous, next) => next.2 || next.1 ≠ previous.1

/-- The first path came before the second. -/
def Older (history : List Operation) (path path' : Text) : Prop :=
  (lifetime path' history).length < (lifetime path history).length

theorem since_concat (path : Text) (history : List Operation) (op : Operation) :
    since path (history ++ [op]) = if op.drops path then [] else since path history ++ [op] := by
  rw [since, List.rtakeWhile_concat]
  cases op.drops path <;> rfl

theorem lifetime_concat (path : Text) (history : List Operation) (op : Operation) :
    lifetime path (history ++ [op]) =
      if op.drops path ∨ (lifetime path history = [] ∧ op.updates path = false) then []
      else lifetime path history ++ [op] := by
  rw [lifetime, since_concat]
  by_cases hdrops : op.drops path = true
  · simp [hdrops]
  · simp only [hdrops, Bool.false_eq_true, if_false, false_or, List.dropWhile_append]
    change (if (lifetime path history).isEmpty = true then _ else lifetime path history ++ [op]) = _
    cases hlifetime : lifetime path history <;> cases hupdates : op.updates path <;> simp [hupdates]

theorem written?_isSome (path : Text) (op : Operation) :
    (written? path op).isSome = op.updates path := by
  cases op with
  | update q content force => by_cases h : q = path <;> simp [written?, updates, h]
  | prune keep => rfl

theorem writings_concat (path : Text) (history : List Operation) (op : Operation) :
    writings path (history ++ [op]) =
      if op.drops path then [] else writings path history ++ (written? path op).toList := by
  rw [writings, lifetime_concat]
  by_cases hdrops : op.drops path = true
  · simp [hdrops]
  · by_cases hnone : lifetime path history = [] ∧ op.updates path = false
    · have hunwritten : written? path op = none := by
        rw [← Option.not_isSome_iff_eq_none, written?_isSome, hnone.2]
        exact Bool.false_ne_true
      simp [hdrops, hnone, writings, hunwritten]
    · rw [if_neg (not_or.mpr ⟨hdrops, hnone⟩), if_neg hdrops, List.filterMap_append]
      cases hwritten : written? path op <;> simp [writings, hwritten]

theorem lifetime_eq_nil_iff {path : Text} {history : List Operation} :
    lifetime path history = [] ↔ writings path history = [] := by
  induction history using List.reverseRecOn with
  | nil => simp [writings, lifetime, since]
  | append_singleton history op ih =>
      rw [lifetime_concat, writings_concat]
      by_cases hdrops : op.drops path = true
      · simp [hdrops]
      · cases hwritten : written? path op with
        | none =>
            have hupdates : op.updates path = false := by rw [← written?_isSome, hwritten]; rfl
            simp [hdrops, hupdates, ih]
        | some w =>
            have hupdates : op.updates path = true := by rw [← written?_isSome, hwritten]; rfl
            simp [hdrops, hupdates]

theorem growth_cons_cons (first second : Text × Bool) (rest : List (Text × Bool)) :
    growth (first :: second :: rest) =
      growth (second :: rest) + if second.2 || second.1 ≠ first.1 then 1 else 0 := by
  simp [growth, List.countP_cons]

theorem growth_concat (writings : List (Text × Bool)) (last next : Text × Bool) :
    growth (writings ++ [last] ++ [next]) =
      growth (writings ++ [last]) + if next.2 || next.1 ≠ last.1 then 1 else 0 := by
  induction writings with
  | nil => simp [growth, List.countP_cons]
  | cons first writings ih =>
      obtain ⟨second, rest, hrest⟩ : ∃ second rest, writings ++ [last] = second :: rest :=
        List.exists_cons_of_ne_nil (by simp)
      rw [hrest, List.cons_append] at ih
      rw [List.cons_append, hrest, List.cons_append, List.cons_append, growth_cons_cons,
        growth_cons_cons, ih]
      omega

/-- What is known of a path after some updates. -/
def snapshot? (path : Text) (writings : List (Text × Bool)) : Option Snapshot :=
  writings.getLast?.map fun last => ⟨path, growth writings, last.1⟩

theorem snapshot?_concat (path : Text) (writings : List (Text × Bool)) (content : Text)
    (force : Bool) :
    snapshot? path (writings ++ [(content, force)]) =
      some (((snapshot? path writings).map (renew content force)).getD ⟨path, 0, content⟩) := by
  rcases List.eq_nil_or_concat writings with rfl | ⟨earlier, last, rfl⟩
  · rfl
  · rw [List.concat_eq_append]
    simp only [snapshot?, List.getLast?_concat, Option.map_some, Option.getD_some, growth_concat,
      renew]
    by_cases hcontent : content = last.1
    · subst hcontent
      cases force <;> simp
    · simp [hcontent, Ne.symm hcontent]

theorem get?_run (history : List Operation) (path : Text) :
    (run {} history).get? path = snapshot? path (writings path history) := by
  induction history using List.reverseRecOn with
  | nil => rfl
  | append_singleton history op ih =>
      rw [run_append, run_cons, run_nil, writings_concat]
      cases op with
      | update q content force =>
          by_cases hq : q = path
          · subst hq
            rw [perform, get?_update, if_pos rfl, ih]
            simp [drops, written?, snapshot?_concat]
          · rw [perform, get?_update, if_neg (Ne.symm hq), ih]
            simp [drops, written?, hq]
      | prune keep =>
          rw [perform, get?_prune, ih]
          cases hkeep : keep path <;> simp [drops, written?, hkeep, snapshot?]

theorem mem_paths_iff {store : SnapshotStore} {path : Text} :
    path ∈ store.paths ↔ (store.get? path).isSome = true := by
  simp [paths, get?, List.find?_isSome]

theorem mem_paths_run_iff {history : List Operation} {path : Text} :
    path ∈ (run {} history).paths ↔ lifetime path history ≠ [] := by
  rw [mem_paths_iff, get?_run, snapshot?, Option.isSome_map, Ne, lifetime_eq_nil_iff]
  cases writings path history <;> simp

theorem exists_of_updates {path : Text} {op : Operation} (h : op.updates path = true) :
    ∃ content force, op = .update path content force := by
  cases op with
  | update q content force =>
      obtain rfl : q = path := by simpa [updates] using h
      exact ⟨content, force, rfl⟩
  | prune keep => cases h

theorem mem_paths_run_iff_lives {history : List Operation} {path : Text} :
    path ∈ (run {} history).paths ↔ Lives path history := by
  rw [mem_paths_iff]
  constructor
  · induction history using List.reverseRecOn with
    | nil => exact fun h => nomatch h
    | append_singleton history op ih =>
        intro h
        cases hupdates : op.updates path with
        | true =>
            obtain ⟨content, force, rfl⟩ := exists_of_updates hupdates
            exact ⟨history, content, force, [], rfl, drops_nil path⟩
        | false =>
            rw [run_append, run_cons, run_nil, get?_perform hupdates] at h
            cases hdrops : op.drops path with
            | true => simp [hdrops] at h
            | false =>
                rw [hdrops, if_neg Bool.false_ne_true] at h
                obtain ⟨before, content, force, after, rfl, hafter⟩ := ih h
                refine ⟨before, content, force, after ++ [op], by simp, ?_⟩
                simpa [Drops, hdrops] using hafter
  · rintro ⟨before, content, force, after, rfl, hafter⟩
    obtain ⟨s, hs, -⟩ := get?_run_update before path content force
    obtain ⟨s', hs', -⟩ := growsAt_run hafter _ s hs
    rw [List.append_cons, run_append, hs', Option.isSome_some]

theorem paths_update (store : SnapshotStore) (path content : Text) (force : Bool) :
    (store.update path content force).paths =
      if store.contains path then store.paths else store.paths ++ [path] := by
  unfold update
  split
  · rw [paths, paths, List.map_map]
    refine List.map_congr_left fun s _ => ?_
    rw [Function.comp_apply]
    split
    · exact renew_path content force s
    · rfl
  · simp [paths]

theorem paths_prune (store : SnapshotStore) (keep : Text → Bool) :
    (store.prune keep).paths = store.paths.filter keep := by
  simp [prune, paths, List.filter_map, Function.comp_def]

theorem mem_dropped_iff {store : SnapshotStore} {keep : Text → Bool} {path : Text} :
    path ∈ store.dropped keep ↔ path ∈ store.paths ∧ keep path = false := by
  rw [SnapshotStore.dropped, List.mem_filter, Bool.not_eq_true']

theorem get?_prune_eq (store : SnapshotStore) (keep : Text → Bool) (path : Text) :
    (store.prune keep).get? path = if path ∈ store.dropped keep then none else store.get? path := by
  rw [get?_prune]
  cases hkeep : keep path with
  | true => simp [mem_dropped_iff, hkeep]
  | false =>
      cases hpath : store.get? path <;> simp [mem_dropped_iff, mem_paths_iff, hkeep, hpath]

theorem length_lifetime_concat {path : Text} {history : List Operation} {op : Operation}
    (hlifetime : lifetime path history ≠ []) (h : op.drops path = false) :
    (lifetime path (history ++ [op])).length = (lifetime path history).length + 1 := by
  rw [lifetime_concat, if_neg (by simp [h, hlifetime]), List.length_append, List.length_singleton]

theorem Older.concat {path path' : Text} {history : List Operation} {op : Operation}
    (h : Older history path path') (hlifetime : lifetime path history ≠ [])
    (hlifetime' : lifetime path' history ≠ []) (hkeep : op.drops path = false)
    (hkeep' : op.drops path' = false) : Older (history ++ [op]) path path' := by
  rw [Older, length_lifetime_concat hlifetime hkeep, length_lifetime_concat hlifetime' hkeep']
  exact Nat.succ_lt_succ h

theorem older_of_comes {path path' content : Text} {force : Bool} {history : List Operation}
    (hpath : path ∈ (run {} history).paths) (hnew : path' ∉ (run {} history).paths) :
    Older (history ++ [.update path' content force]) path path' := by
  have hlifetime := mem_paths_run_iff.mp hpath
  have hnone : lifetime path' history = [] := not_not.mp fun h => hnew (mem_paths_run_iff.mpr h)
  have hone : lifetime path' (history ++ [.update path' content force]) =
      [.update path' content force] := by
    rw [lifetime_concat, if_neg (by simp [drops, updates]), hnone, List.nil_append]
  rw [Older, hone, length_lifetime_concat hlifetime rfl, List.length_singleton]
  exact Nat.succ_lt_succ (List.length_pos_iff.mpr hlifetime)

theorem pairwise_older (history : List Operation) :
    (run {} history).paths.Pairwise (Older history) := by
  induction history using List.reverseRecOn with
  | nil => exact List.Pairwise.nil
  | append_singleton history op ih =>
      rw [run_append, run_cons, run_nil]
      cases op with
      | update q content force =>
          have hkept : (run {} history).paths.Pairwise
              (Older (history ++ [.update q content force])) :=
            ih.imp_of_mem fun hpath hpath' h =>
              h.concat (mem_paths_run_iff.mp hpath) (mem_paths_run_iff.mp hpath') rfl rfl
          rw [perform, paths_update]
          split
          · exact hkept
          · next hnew =>
              refine List.pairwise_append.mpr ⟨hkept, List.pairwise_singleton _ _, ?_⟩
              intro path hpath path' hpath'
              obtain rfl := List.mem_singleton.mp hpath'
              exact older_of_comes hpath fun h => hnew (mem_paths_iff.mp h)
      | prune keep =>
          rw [perform, paths_prune]
          refine (ih.filter keep).imp_of_mem fun hpath hpath' h => ?_
          obtain ⟨hmem, hkeep⟩ := List.mem_filter.mp hpath
          obtain ⟨hmem', hkeep'⟩ := List.mem_filter.mp hpath'
          exact h.concat (mem_paths_run_iff.mp hmem) (mem_paths_run_iff.mp hmem')
            (by simp [drops, hkeep]) (by simp [drops, hkeep'])

/-- At the end of a history, an empty store has a snapshot of each path that was updated and not
dropped since, with the text of the latest update and a version that counts the updates since it
came that were forced or brought another text; the paths stand in the order in which they came. A
pruning returns the paths that are not to be kept, in this order, and takes their snapshots away;
an operation that neither updates nor drops a path leaves its snapshot as it is. -/
theorem contents_of_history (history : List Operation) :
    (∀ path, path ∈ (run {} history).paths ↔ Lives path history) ∧
    (∀ path, (run {} history).get? path = snapshot? path (writings path history)) ∧
    (run {} history).paths.Pairwise (Older history) ∧
    (∀ keep, (∀ path, path ∈ (run {} history).dropped keep ↔
        Lives path history ∧ keep path = false) ∧
      ((run {} history).dropped keep).Pairwise (Older history) ∧
      ∀ path, (run {} (history ++ [.prune keep])).get? path =
        if path ∈ (run {} history).dropped keep then none else (run {} history).get? path) ∧
    ∀ path op, op.updates path = false → op.drops path = false →
      (run {} (history ++ [op])).get? path = (run {} history).get? path := by
  refine ⟨fun path => mem_paths_run_iff_lives, get?_run history, pairwise_older history,
    fun keep => ⟨fun path => ?_, ?_, fun path => ?_⟩, fun path op hother hkept => ?_⟩
  · rw [mem_dropped_iff, mem_paths_run_iff_lives]
  · exact (pairwise_older history).filter _
  · rw [run_append, run_cons, run_nil, perform, get?_prune_eq]
  · rw [run_append, run_cons, run_nil, get?_perform hother, if_neg (by simp [hkept])]

/-- A file gets the same text again, without and with force, and then another one; a second file is
dropped and comes back. -/
def busy : List Operation :=
  [.update ['b'] ['y'] true, .update ['a'] ['x'] true, .update ['a'] ['x'] false,
    .prune (· ≠ ['b']), .update ['a'] ['x'] true, .update ['b'] ['y'] false,
    .update ['a'] ['z'] false]

theorem contents_of_history_busy :
    (run {} busy).get? ['a'] = some ⟨['a'], 2, ['z']⟩ ∧
      (run {} busy).get? ['b'] = some ⟨['b'], 0, ['y']⟩ ∧
      Older busy ['a'] ['b'] ∧ ['a'] ∈ (run {} busy).dropped (· == ['b']) ∧
      (run {} (busy ++ [.prune (· == ['b'])])).get? ['b'] = (run {} busy).get? ['b'] := by
  obtain ⟨hlives, hget, hordered, hprune, hframe⟩ := contents_of_history busy
  have hpaths : (run {} busy).paths = [['a'], ['b']] := by decide
  have ha : ['a'] ∈ (run {} busy).paths := by simp [hpaths]
  rw [hpaths] at hordered
  refine ⟨(hget ['a']).trans (by decide), (hget ['b']).trans (by decide), ?_, ?_, ?_⟩
  · exact (List.pairwise_cons.mp hordered).1 ['b'] (List.mem_singleton_self _)
  · exact ((hprune (· == ['b'])).1 ['a']).mpr ⟨(hlives ['a']).mp ha, rfl⟩
  · exact hframe ['b'] _ rfl rfl

end Recheck.Proofs.StoreContents
