import Mathlib.Data.List.Induction

/-!
Lists without repetitions: of items that are equal only the first is kept. Choosing items and
naming them by a function can be done before or after.
-/

namespace Recheck.Proofs.Distinct

theorem induction_by_key {α κ : Type} [BEq κ] (key : α → κ) {P : List α → Prop} (nil : P [])
    (cons : ∀ item items, P (items.filter fun other => !key other == key item) → P (item :: items))
    (items : List α) : P items := by
  induction hn : items.length using Nat.strongRecOn generalizing items with
  | ind n ih =>
      cases items with
      | nil => exact nil
      | cons item items =>
          refine cons item items (ih _ ?_ _ rfl)
          rw [← hn, List.length_cons]
          exact Nat.lt_succ_of_le (List.length_filter_le ..)

variable {α β : Type} [BEq α] [LawfulBEq α] [BEq β] [LawfulBEq β]

theorem nodup_eraseDups (items : List α) : items.eraseDups.Nodup := by
  induction items using induction_by_key (id : α → α) with
  | nil => simp
  | cons item items ih =>
      rw [List.eraseDups_cons, List.nodup_cons]
      exact ⟨by simp, ih⟩

theorem eraseDups_append_singleton (items : List α) (item : α) :
    (items ++ [item]).eraseDups =
      items.eraseDups ++ if items.contains item then [] else [item] := by
  rw [List.eraseDups_append]
  by_cases h : item ∈ items <;> simp [List.removeAll, List.eraseDups_cons, h]

theorem filter_eraseDups (p : α → Bool) (items : List α) :
    items.eraseDups.filter p = (items.filter p).eraseDups := by
  induction items using List.reverseRecOn with
  | nil => rfl
  | append_singleton items item ih =>
      have hmem : p item = true → (items.filter p).contains item = items.contains item := by
        intro hp
        rw [Bool.eq_iff_iff]
        simp [hp]
      rw [eraseDups_append_singleton, List.filter_append, ih, List.filter_append]
      by_cases hp : p item = true
      · rw [List.filter_cons_of_pos hp, List.filter_nil, eraseDups_append_singleton, hmem hp]
        congr 1
        split <;> simp [hp]
      · rw [List.filter_cons_of_neg hp, List.filter_nil, List.append_nil]
        split <;> simp [hp]

theorem eraseDups_map_eraseDups (f : α → β) (items : List α) :
    (items.eraseDups.map f).eraseDups = (items.map f).eraseDups := by
  induction items using List.reverseRecOn with
  | nil => rfl
  | append_singleton items item ih =>
      rw [eraseDups_append_singleton, List.map_append, List.map_append, List.map_singleton,
        eraseDups_append_singleton]
      by_cases h : item ∈ items
      · have hf : f item ∈ items.map f := List.mem_map_of_mem h
        simp [h, hf, ih]
      · have hmem : (items.eraseDups.map f).contains (f item) =
            (items.map f).contains (f item) := by
          rw [Bool.eq_iff_iff]
          simp
        rw [if_neg (by simpa using h), List.map_singleton, eraseDups_append_singleton, ih, hmem]

end Recheck.Proofs.Distinct
