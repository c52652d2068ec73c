import Recheck.Proofs.GroupedReports

/-!
The records of diagnostics as a stable grouping. A list of items with those of one key together,
the keys in the order of their first items and the items of a key in their own order is found in
one way alone. The records of diagnostics are such a list, unless some located error or warning
cannot be a record, and in a listing every one can.
-/

namespace Recheck.Proofs.RecordGroups

open Recheck.Proofs.Activities
open Recheck.Proofs.Distinct
open Recheck.Proofs.FileRecords

section

variable {α κ : Type} {key : α → κ}

/-- Between two items of one key there is none of another. -/
def Together (key : α → κ) (out : List α) : Prop :=
  ∀ x z y, [x, z, y].Sublist out → key x = key y → key z = key x

theorem Together.sublist {out part : List α} (h : Together key out) (hpart : part.Sublist out) :
    Together key part := fun x z y hsub => h x z y (hsub.trans hpart)

theorem Together.append {own rest : List α} {k : κ} (hrest : Together key rest)
    (hown : ∀ item ∈ own, key item = k) (hother : ∀ item ∈ rest, key item ≠ k) :
    Together key (own ++ rest) := by
  intro x z y hsub hkey
  obtain ⟨first, second, heq, hfirst, hsecond⟩ := List.sublist_append_iff.mp hsub
  have hmem : y ∈ first ++ second := by simp [← heq]
  match first, second, heq with
  | [], _, rfl => exact hrest x z y hsecond hkey
  | [_], [_, _], rfl =>
      exact absurd (hkey ▸ hown x (hfirst.subset (by simp))) (hother y (hsecond.subset (by simp)))
  | [_, _], [_], rfl =>
      exact absurd (hkey ▸ hown x (hfirst.subset (by simp))) (hother y (hsecond.subset (by simp)))
  | [_, _, _], [], rfl =>
      rw [hown z (hfirst.subset (by simp)), hown x (hfirst.subset (by simp))]

variable [BEq κ]

/-- The items once more, those of one key together, the keys in the order of their first items and
the items of one key in their own order. -/
structure Arranged (key : α → κ) (items out : List α) : Prop where
  perm : out.Perm items
  together : Together key out
  first : (out.map key).eraseDups = (items.map key).eraseDups
  stable : ∀ k, out.filter (key · == k) = items.filter (key · == k)

variable [LawfulBEq κ]

theorem gather_cons (item : α) (items : List α) :
    gather key (item :: items) =
      item :: items.filter (key · == key item) ++
        gather key (items.filter fun other => !key other == key item) := by
  rw [gather_eq_flatMap, List.map_cons, List.eraseDups_cons, List.flatMap_cons, gather_eq_flatMap]
  congr 1
  · simp
  · rw [List.filter_map]
    refine List.flatMap_congr fun k hk => ?_
    obtain ⟨other, hother, rfl⟩ := List.mem_map.mp (List.mem_eraseDups.mp hk)
    have hne : key other ≠ key item := by simpa using (List.mem_filter.mp hother).2
    rw [List.filter_cons_of_neg (by simpa using hne.symm), List.filter_filter]
    refine List.filter_congr fun x _ => ?_
    by_cases hx : key x = key other <;> simp [hx, hne]

theorem Arranged.cons {item : α} {items rest : List α}
    (h : Arranged key (items.filter fun other => !key other == key item) rest) :
    Arranged key (item :: items) (item :: items.filter (key · == key item) ++ rest) := by
  have hown : ∀ x ∈ item :: items.filter (key · == key item), key x = key item := by
    refine List.forall_mem_cons.mpr ⟨rfl, fun x hx => ?_⟩
    simpa using (List.mem_filter.mp hx).2
  have hother : ∀ x ∈ rest, key x ≠ key item := by
    intro x hx
    simpa using (List.mem_filter.mp (h.perm.subset hx)).2
  refine ⟨?_, h.together.append hown hother, ?_, fun k => ?_⟩
  · have hsplit := List.filter_append_perm (key · == key item) items
    exact ((h.perm.append_left _).trans hsplit).cons item
  · have hnone : ((items.filter (key · == key item)).map key).filter (!· == key item) = [] := by
      simp [List.filter_map]
    have hall : (rest.map key).filter (!· == key item) = rest.map key := by
      simpa [List.filter_eq_self] using hother
    rw [List.map_append, List.map_cons, List.cons_append, List.eraseDups_cons, List.filter_append,
      hnone, hall, List.nil_append, h.first, List.map_cons, List.eraseDups_cons, List.filter_map]
    rfl
  · rw [List.filter_append, h.stable k, ← filter_gather key (items.filter _) k,
      ← List.filter_append, ← gather_cons, filter_gather]

theorem arranged_gather (key : α → κ) (items : List α) : Arranged key items (gather key items) := by
  induction items using induction_by_key key with
  | nil => exact ⟨.refl _, fun _ _ _ hsub => (nomatch hsub), rfl, fun _ => rfl⟩
  | cons item items ih =>
      rw [gather_cons]
      exact ih.cons

theorem filter_append_filter {k : κ} {rest : List α}
    (h : ∀ z y, [z, y].Sublist rest → key y = k → key z = k) :
    rest.filter (key · == k) ++ rest.filter (fun other => !key other == k) = rest := by
  induction rest with
  | nil => rfl
  | cons z rest ih =>
      have hrest : ∀ z y, [z, y].Sublist rest → key y = k → key z = k :=
        fun z y hsub => h z y (hsub.cons _)
      by_cases hz : key z = k
      · simpa [hz] using ih hrest
      · have hnone : ∀ y ∈ rest, key y ≠ k := fun y hy hkey =>
          hz (h z y ((List.singleton_sublist.mpr hy).cons_cons z) hkey)
        have hown : rest.filter (key · == k) = [] := by simpa using hnone
        have hothers : rest.filter (fun other => !key other == k) = rest := by
          simpa [List.filter_eq_self] using hnone
        simp [hz, hown, hothers]

theorem gather_of_together {out : List α} (h : Together key out) : gather key out = out := by
  induction out using induction_by_key key with
  | nil => rfl
  | cons item rest ih =>
      have hrest : rest.Sublist (item :: rest) := List.sublist_cons_self item rest
      have hbehind : ∀ z y, [z, y].Sublist rest → key y = key item → key z = key item :=
        fun z y hsub hkey => h item z y (hsub.cons_cons item) hkey.symm
      rw [gather_cons, ih (h.sublist (List.filter_sublist.trans hrest)), List.cons_append,
        filter_append_filter hbehind]

theorem arranged_iff {items out : List α} : Arranged key items out ↔ out = gather key items := by
  constructor
  · intro h
    rw [← gather_of_together h.together, gather_eq_flatMap, gather_eq_flatMap, h.first]
    exact List.flatMap_congr fun k _ => h.stable k
  · rintro rfl
    exact arranged_gather key items

end

/-- Why a diagnostic cannot be a record. -/
def refusal (d : Diagnostic) : Failure :=
  .invalid (Problem.summary [] (Record.problemsOf (d.line + 1) (d.column + 1) d.code))

theorem ofDiagnostic?_of_not_acceptable {d : Diagnostic} (hfile : d.file ≠ some [])
    (hkept : Kept d) (h : ¬ Acceptable d) (directory root : Text) :
    Record.ofDiagnostic? directory root d = .error (refusal d) := by
  have hproblems : Record.problemsOf (d.line + 1) (d.column + 1) d.code ≠ [] := by
    intro hnone
    simp only [Record.problemsOf, List.append_eq_nil_iff, ite_eq_right_iff, imp_false,
      List.cons_ne_self, List.isEmpty_iff] at hnone
    exact h ⟨by omega, by omega, hnone.2⟩
  unfold Record.ofDiagnostic?
  cases hsome : d.file with
  | none => exact absurd hsome hkept.1
  | some file =>
      have hne : file.isEmpty = false := by
        rw [List.isEmpty_eq_false_iff]
        rintro rfl
        exact hfile hsome
      have hlocated : Record.ofLocated directory root file d = .error (refusal d) := by
        simp only [Record.ofLocated, hne, Bool.false_eq_true, if_false, refusal]
      cases hcategory : d.category with
      | message => exact absurd hcategory hkept.2
      | error | warning => simp only [hlocated]; rfl

theorem ofDiagnostics_of_not_acceptable {before after : List Diagnostic} {d : Diagnostic}
    (hfile : ∀ d' ∈ before ++ d :: after, d'.file ≠ some [])
    (hbefore : ∀ d' ∈ before, Kept d' → Acceptable d') (hkept : Kept d) (h : ¬ Acceptable d)
    (directory root : Text) :
    Record.ofDiagnostics directory root (before ++ d :: after) = .error (refusal d) := by
  have hrecords : (before ++ d :: after).mapM (Record.ofDiagnostic? directory root) =
      .error (refusal d) := by
    refine mapM_eq_error (fun b hb => ⟨recordOf directory root b, ?_⟩) ?_
    · exact ofDiagnostic?_of_acceptable (hfile b (by simp [hb])) (hbefore b hb) directory root
    · exact ofDiagnostic?_of_not_acceptable (hfile d (by simp)) hkept h directory root
  rw [Record.ofDiagnostics, hrecords]
  rfl

theorem regular_ofLines {directory : Text} {lines : List Text} {ds : List Diagnostic}
    (h : Diagnostic.ofLines directory lines = .ok ds) : ∀ d ∈ ds, Regular d := by
  obtain ⟨done, hdone, rfl⟩ := exists_of_map_eq_ok h
  intro d hd
  exact forall_foldlM (fun _ hregular _ => hregular) (fun _ note h => h.attach note) (by simp)
    hdone d (List.mem_reverse.mp hd)

theorem exists_first {α : Type} {p : α → Prop} {items : List α} (h : ∃ item ∈ items, p item) :
    ∃ before item after, items = before ++ item :: after ∧ (∀ b ∈ before, ¬ p b) ∧ p item := by
  classical
  obtain ⟨item, hitem⟩ := Option.isSome_iff_exists.mp
    (List.find?_isSome (p := fun item => decide (p item)).mpr (by simpa using h))
  obtain ⟨hp, before, after, rfl, hbefore⟩ := List.find?_eq_some_iff_append.mp hitem
  exact ⟨before, item, after, rfl, by simpa using hbefore, by simpa using hp⟩

def spelled (file : String) (line : Int) (category : Category) : Diagnostic :=
  { file := some file.toList, line, column := 0, code := ['c'], chain := [['x'], ['y']], category }

/-- Diagnostics about two files, of which one is spelled in two ways. -/
def shared : List Diagnostic :=
  [spelled "/p/a" 0 .error, spelled "/p/b" 1 .warning, spelled "/p/a" 2 .message,
    spelled "../p/a" 3 .error]

end Recheck.Proofs.RecordGroups
