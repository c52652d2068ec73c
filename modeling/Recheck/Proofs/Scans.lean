import Recheck.Proofs.Trees
import Recheck.Watch.Watcher

/-!
What the watcher sees when it looks at a directory tree without links: each file that it covers
and that can be read, with the time of its last change. A file whose time is another one than at
the look before is among the files that the listener is told of.
-/

namespace Recheck.Proofs.Scans

open Recheck.Watcher
open Recheck.Proofs.Trees

/-- The directory that names lead to, with all above and below it, holds no links, and the names
of the files below it are names that a file can have. -/
structure PlainTree (root : List Text) (disk : Disk) : Prop where
  links : ∀ names, names <+: root ∨ root <+: names → ∀ target, disk.at? names ≠ some (.link target)
  names : ∀ names ∈ disk.walk isSkipped (pathOf root), ∀ name ∈ names, Proper name

/-- Names from a directory to a file whose name is watched, through no directory that is left
out. -/
inductive Covered (patterns : List Text) : List Text → Prop
  | mk {dirs : List Text} {name : Text} (proper : ∀ part ∈ dirs ++ [name], Proper part)
      (entered : ∀ dir ∈ dirs, isSkipped dir = false) (watched : isWatched patterns name = true) :
      Covered patterns (dirs ++ [name])

/-- The path of a directory or of something that could be below it. -/
def Below (root : List Text) (path : Text) : Prop :=
  ∃ names, path = pathOf (root ++ names) ∧ ∀ name ∈ names, Proper name

theorem PlainTree.unlinked {root : List Text} {disk : Disk} (h : PlainTree root disk)
    (names : List Text) : Unlinked disk (root ++ names) :=
  fun front hfront =>
    h.links front (List.prefix_or_prefix_of_prefix hfront (List.prefix_append root names))

theorem Covered.proper {patterns names : List Text} (h : Covered patterns names) :
    ∀ name ∈ names, Proper name := by
  cases h with
  | mk proper entered watched => exact proper

theorem lookup_cons_eq {α : Type} (path : Text) (a : α) (entries : List (Text × α)) (q : Text) :
    List.lookup q ((path, a) :: entries) = if q = path then some a else entries.lookup q := by
  rw [List.lookup_cons]
  by_cases h : q = path
  · simp [h]
  · simp [h, beq_eq_false_iff_ne.mpr h]

theorem lookup_record (path : Text) (changed : Int) (seen : Baseline) (q : Text) :
    (record path changed seen).lookup q = if q = path then some changed else seen.lookup q := by
  induction seen with
  | nil => rw [record, lookup_cons_eq]
  | cons entry seen ih =>
      obtain ⟨other, time⟩ := entry
      rw [record]
      split
      · next heq =>
          subst heq
          rw [lookup_cons_eq, lookup_cons_eq]
          split <;> rfl
      · next hne =>
          rw [lookup_cons_eq, lookup_cons_eq, ih]
          by_cases h : q = other
          · have hq : q ≠ path := fun hq => hne (h.symm.trans hq)
            simp only [if_pos h, if_neg hq]
          · simp only [if_neg h]

theorem lookup_foldl_record (disk : Disk) (paths : List Text) (seen : Baseline) (q : Text) :
    (paths.foldl (fun seen path =>
      match disk.changed? path with
      | some changed => record path changed seen
      | none => seen) seen).lookup q =
      (if q ∈ paths then disk.changed? q else none).or (seen.lookup q) := by
  induction paths generalizing seen with
  | nil => simp
  | cons path paths ih =>
      rw [List.foldl_cons, ih]
      by_cases hq : q = path
      · subst hq
        cases hchanged : disk.changed? q with
        | none => simp
        | some changed => by_cases hmem : q ∈ paths <;> simp [hmem, lookup_record]
      · cases hchanged : disk.changed? path with
        | none => simp [hq]
        | some changed => simp [hq, lookup_record]

theorem lookup_scan (disk : Disk) (patterns paths : List Text) (q : Text) :
    (scan disk patterns paths).lookup q =
      if q ∈ paths.flatMap (filesAt disk patterns) then disk.changed? q else none := by
  refine (lookup_foldl_record disk (paths.flatMap (filesAt disk patterns)) [] q).trans ?_
  rw [List.lookup_nil, Option.or_none]

theorem changed?_of_lookup_scan {disk : Disk} {patterns paths : List Text} {q : Text} {time : Int}
    (h : (scan disk patterns paths).lookup q = some time) : disk.changed? q = some time := by
  rw [lookup_scan] at h
  split at h
  · exact h
  · cases h

theorem mem_difference {before now : Baseline} {q : Text} {time : Int}
    (hnow : now.lookup q = some time) (hbefore : before.lookup q ≠ some time) :
    q ∈ difference before now := by
  rw [difference, List.mem_append, List.mem_map]
  left
  exact ⟨(q, time), List.mem_filter.mpr ⟨mem_of_lookup hnow, by simpa using hbefore⟩, rfl⟩

theorem isSome_lookup_of_mem {seen : Baseline} {q : Text} {time : Int} (h : (q, time) ∈ seen) :
    (seen.lookup q).isSome = true := by
  induction seen with
  | nil => cases h
  | cons entry seen ih =>
      obtain ⟨other, time'⟩ := entry
      rw [List.lookup_cons]
      split
      · rfl
      · next hne =>
          rcases List.mem_cons.mp h with heq | hmem
          · obtain ⟨rfl, -⟩ := Prod.mk.inj heq
            simp at hne
          · exact ih hmem

theorem fst_record (path : Text) (changed : Int) (seen : Baseline) :
    (record path changed seen).map Prod.fst =
      if path ∈ seen.map Prod.fst then seen.map Prod.fst else seen.map Prod.fst ++ [path] := by
  induction seen with
  | nil => rfl
  | cons entry seen ih =>
      obtain ⟨other, time⟩ := entry
      rw [record]
      split
      · next heq => simp [heq]
      · next hne =>
          rw [List.map_cons, ih]
          have hne' : path ≠ other := fun h => hne h.symm
          by_cases hmem : path ∈ seen.map Prod.fst <;> simp [hmem, hne']

theorem nodup_record {seen : Baseline} (h : (seen.map Prod.fst).Nodup) (path : Text)
    (changed : Int) : ((record path changed seen).map Prod.fst).Nodup := by
  rw [fst_record]
  split
  · exact h
  · next hmem =>
      rw [List.nodup_append]
      refine ⟨h, by simp, fun q hq q' hq' heq => hmem ?_⟩
      rw [← List.mem_singleton.mp hq', ← heq]
      exact hq

theorem nodup_scan (disk : Disk) (patterns paths : List Text) :
    ((scan disk patterns paths).map Prod.fst).Nodup := by
  unfold scan
  apply List.foldlRecOn (motive := fun seen : Baseline => (seen.map Prod.fst).Nodup)
  · exact List.nodup_nil
  · intro seen hseen path _
    split
    · exact nodup_record hseen path _
    · exact hseen

theorem lookup_of_mem {seen : Baseline} (h : (seen.map Prod.fst).Nodup) {q : Text} {time : Int}
    (hmem : (q, time) ∈ seen) : seen.lookup q = some time := by
  induction seen with
  | nil => cases hmem
  | cons entry seen ih =>
      obtain ⟨other, time'⟩ := entry
      rw [List.map_cons, List.nodup_cons] at h
      rw [lookup_cons_eq]
      rcases List.mem_cons.mp hmem with heq | hrest
      · obtain ⟨rfl, rfl⟩ := Prod.mk.inj heq
        rw [if_pos rfl]
      · have hne : q ≠ other := fun heq => h.1 (List.mem_map.mpr ⟨(q, time), hrest, heq⟩)
        rw [if_neg hne]
        exact ih h.2 hrest

theorem isSome_lookup_of_mem_difference {before now : Baseline} {q : Text}
    (h : q ∈ difference before now) :
    (now.lookup q).isSome = true ∨ (before.lookup q).isSome = true := by
  rw [difference, List.mem_append, List.mem_map, List.mem_map] at h
  rcases h with ⟨⟨path, time⟩, hmem, rfl⟩ | ⟨⟨path, time⟩, hmem, rfl⟩
  · exact .inl (isSome_lookup_of_mem (List.mem_filter.mp hmem).1)
  · exact .inr (isSome_lookup_of_mem (List.mem_filter.mp hmem).1)

section

variable {root patterns names : List Text} {disk : Disk} (hroot : ∀ name ∈ root, Proper name)
  (htree : PlainTree root disk)
include hroot htree

theorem below_of_mem_filesAt {q : Text} (h : q ∈ filesAt disk patterns (pathOf root)) :
    Below root q := by
  have hplain := plain_of_proper hroot
  rw [filesAt, tidy_pathOf hplain] at h
  split at h
  · obtain rfl := List.mem_singleton.mp h
    exact ⟨[], by simp, by simp⟩
  · obtain ⟨names, hnames, rfl⟩ := List.mem_map.mp h
    have hproper := htree.names names (List.mem_filter.mp hnames).1
    exact ⟨names, within_pathOf hplain (plain_of_proper hproper), hproper⟩

omit htree in
theorem proper_of_append (hnames : ∀ name ∈ names, Proper name) :
    ∀ name ∈ root ++ names, Proper name := by
  intro name hname
  rcases List.mem_append.mp hname with h | h
  · exact hroot name h
  · exact hnames name h

theorem lookup_scan_of_text? (hcovered : Covered patterns names) {content : Text}
    (htext : disk.text? (pathOf (root ++ names)) = some content) : ∃ time,
      (scan disk patterns [pathOf root]).lookup (pathOf (root ++ names)) = some time := by
  have hplain := plain_of_proper hroot
  have hall := plain_of_proper (proper_of_append hroot hcovered.proper)
  obtain ⟨bytes, changed, -, hchanged, -⟩ := file_of_text? hall (htree.unlinked names) htext
  refine ⟨changed, ?_⟩
  cases hcovered with
  | @mk dirs name proper entered watched =>
      obtain ⟨hisFile, hwalk⟩ := mem_walk hall (htree.unlinked _) entered htext
      have hmem : pathOf (root ++ (dirs ++ [name])) ∈ filesAt disk patterns (pathOf root) := by
        rw [filesAt, tidy_pathOf hplain, if_neg (by simp [hisFile]), List.mem_map]
        exact ⟨dirs ++ [name], List.mem_filter.mpr ⟨hwalk, by simpa using watched⟩,
          within_pathOf hplain (plain_of_proper proper)⟩
      rw [lookup_scan, if_pos (by simpa using hmem), hchanged]

theorem below_of_isSome_lookup {q : Text}
    (h : ((scan disk patterns [pathOf root]).lookup q).isSome = true) : Below root q := by
  rw [lookup_scan] at h
  split at h
  · next hmem => exact below_of_mem_filesAt hroot htree (by simpa using hmem)
  · cases h

end

theorem below_of_mem_difference {root patterns : List Text} {disk disk' : Disk}
    (hroot : ∀ name ∈ root, Proper name) (htree : PlainTree root disk)
    (htree' : PlainTree root disk') {q : Text}
    (h : q ∈ difference (scan disk patterns [pathOf root]) (scan disk' patterns [pathOf root])) :
    Below root q := by
  rcases isSome_lookup_of_mem_difference h with hnow | hbefore
  · exact below_of_isSome_lookup hroot htree' hnow
  · exact below_of_isSome_lookup hroot htree hbefore

end Recheck.Proofs.Scans
