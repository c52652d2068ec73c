import Recheck.Path

/-!
Normalized paths. A path whose names are all plain is cut into these names again, so normalizing
a path a second time changes nothing, from whatever working directory.
-/

namespace Recheck.Proofs.Paths

open Recheck.Path

/-- A name between two slashes: it is not empty, has no slash, and is not `.`. -/
def IsName (name : Text) : Prop := name ≠ [] ∧ '/' ∉ name ∧ name ≠ ['.']

/-- A name that stands for itself: it is not empty, has no slash, and is neither `.` nor `..`. -/
def Plain (name : Text) : Prop := name ≠ [] ∧ '/' ∉ name ∧ name ≠ ['.'] ∧ name ≠ up

theorem Plain.isName {name : Text} (h : Plain name) : IsName name := ⟨h.1, h.2.1, h.2.2.1⟩

theorem not_mem_of_mem_splitOn {sep : Char} {piece text : Text} (h : piece ∈ text.splitOn sep) :
    sep ∉ piece := by
  induction text generalizing piece with
  | nil =>
      obtain rfl : piece = [] := by simpa using h
      simp
  | cons c text ih =>
      rw [List.splitOn_cons_eq_if_modifyHead] at h
      by_cases hc : c = sep
      · rcases List.mem_cons.mp (by simpa [hc] using h) with rfl | hmem
        · simp
        · exact ih hmem
      · simp only [beq_iff_eq, hc, if_false] at h
        cases hpieces : text.splitOn sep with
        | nil => simp [hpieces] at h
        | cons head pieces =>
            rw [hpieces, List.modifyHead_cons, List.mem_cons] at h
            rcases h with rfl | hmem
            · have hhead := ih (hpieces ▸ List.mem_cons_self)
              simpa [hhead] using Ne.symm hc
            · exact ih (hpieces ▸ List.mem_cons_of_mem head hmem)

theorem climb_plain {above names : List Text} (habove : ∀ name ∈ above, Plain name)
    (hnames : ∀ name ∈ names, name ≠ up → Plain name) :
    ∀ name ∈ climb above names, Plain name := by
  induction names generalizing above with
  | nil => simpa [climb] using habove
  | cons name names ih =>
      have hrest : ∀ n ∈ names, n ≠ up → Plain n :=
        fun n hn => hnames n (List.mem_cons_of_mem name hn)
      unfold climb
      split
      · exact ih (fun n hn => habove n (List.mem_of_mem_tail hn)) hrest
      · next hup =>
          refine ih ?_ hrest
          rintro n (_ | ⟨_, hn⟩)
          · exact hnames name List.mem_cons_self hup
          · exact habove n hn

theorem isName_of_mem_parts {path name : Text} (h : name ∈ parts path) : IsName name := by
  obtain ⟨hmem, hname⟩ := List.mem_filter.mp h
  obtain ⟨hne, hdot⟩ := of_decide_eq_true hname
  exact ⟨hne, not_mem_of_mem_splitOn hmem, hdot⟩

theorem names_plain (path : Text) : ∀ name ∈ names path, Plain name := by
  refine climb_plain (by simp) fun name hname hup => ?_
  obtain ⟨hne, hslash, hdot⟩ := isName_of_mem_parts hname
  exact ⟨hne, hslash, hdot, hup⟩

theorem climb_of_plain {above names : List Text} (h : ∀ name ∈ names, name ≠ up) :
    climb above names = above.reverse ++ names := by
  induction names generalizing above with
  | nil => simp [climb]
  | cons name names ih =>
      rw [climb, if_neg (h name List.mem_cons_self),
        ih fun n hn => h n (List.mem_cons_of_mem name hn)]
      simp

theorem climb_append (above names names' : List Text) :
    climb above (names ++ names') = climb (climb above names).reverse names' := by
  induction names generalizing above with
  | nil => simp [climb]
  | cons name names ih =>
      rw [List.cons_append, climb, climb]
      split
      · exact ih above.tail
      · exact ih (name :: above)

theorem climb_ups (inner above names : List Text) :
    climb (inner ++ above) (List.replicate inner.length up ++ names) = climb above names := by
  induction inner with
  | nil => rfl
  | cons name inner ih =>
      rw [List.length_cons, List.replicate_succ, List.cons_append, List.cons_append,
        climb, if_pos rfl,
        List.tail_cons, ih]

theorem parts_glue_of_isName {names : List Text} (h : ∀ name ∈ names, IsName name) :
    parts (glue names) = names := by
  unfold parts glue
  cases names with
  | nil => simp
  | cons name names =>
      rw [List.splitOn_intercalate '/' (fun n hn => (h n hn).2.1) (by simp), List.filter_eq_self]
      intro n hn
      simp [(h n hn).1, (h n hn).2.2]

theorem parts_glue {names : List Text} (h : ∀ name ∈ names, Plain name) :
    parts (glue names) = names :=
  parts_glue_of_isName fun name hname => (h name hname).isName

theorem parts_slash (path : Text) : parts ('/' :: path) = parts path := by
  simp [parts, List.splitOn_cons_eq_if_modifyHead]

theorem names_absolute {slashes : Text} (hslashes : slashes = ['/'] ∨ slashes = ['/', '/'])
    {names : List Text} (h : ∀ name ∈ names, Plain name) :
    Path.names (absolute slashes names) = names := by
  have hparts : parts (absolute slashes names) = names := by
    rcases hslashes with rfl | rfl
    · exact (parts_slash (glue names)).trans (parts_glue h)
    · exact (parts_slash ('/' :: glue names)).trans
        ((parts_slash (glue names)).trans (parts_glue h))
  rw [Path.names, hparts, climb_of_plain fun name hname => (h name hname).2.2.2]
  rfl

theorem head?_glue_of_isName {names : List Text} (h : ∀ name ∈ names, IsName name) :
    (glue names).head? ≠ some '/' := by
  cases names with
  | nil => simp [glue]
  | cons name names =>
      obtain ⟨hne, hslash, -⟩ := h name List.mem_cons_self
      cases name with
      | nil => exact absurd rfl hne
      | cons c name =>
          have hc : c ≠ '/' := fun hc => hslash (hc ▸ List.mem_cons_self)
          cases names <;> simpa [glue, List.intercalate_cons_cons] using hc

theorem lead_absolute_of_isName {slashes : Text}
    (hslashes : slashes = [] ∨ slashes = ['/'] ∨ slashes = ['/', '/']) {names : List Text}
    (h : ∀ name ∈ names, IsName name) : lead (absolute slashes names) = slashes := by
  cases hglue : glue names with
  | nil => rcases hslashes with rfl | rfl | rfl <;> simp [absolute, hglue, lead]
  | cons c rest =>
      have hc : c ≠ '/' := by simpa [hglue] using head?_glue_of_isName h
      rcases hslashes with rfl | rfl | rfl <;> simp [absolute, hglue, lead, hc]

theorem lead_absolute {slashes : Text} (hslashes : slashes = ['/'] ∨ slashes = ['/', '/'])
    {names : List Text} (h : ∀ name ∈ names, Plain name) :
    lead (absolute slashes names) = slashes :=
  lead_absolute_of_isName (.inr hslashes) fun name hname => (h name hname).isName

theorem exists_clean_eq (path : Text) : ∃ slashes,
    (slashes = ['/'] ∨ slashes = ['/', '/']) ∧
      clean path = absolute slashes (Path.names path) := by
  refine ⟨_, ?_, rfl⟩
  unfold isAbsolute
  fun_cases lead path <;> simp

theorem isAbsolute_clean (path : Text) : isAbsolute (clean path) = true := by
  obtain ⟨slashes, hslashes, hpath⟩ := exists_clean_eq path
  have hlead := lead_absolute hslashes (names_plain path)
  rw [hpath, isAbsolute, hlead]
  rcases hslashes with rfl | rfl <;> rfl

theorem clean_ne_nil (path : Text) : clean path ≠ [] := by
  intro hnil
  have habsolute := isAbsolute_clean path
  rw [hnil] at habsolute
  cases habsolute

theorem clean_clean (path : Text) : clean (clean path) = clean path := by
  obtain ⟨slashes, hslashes, hpath⟩ := exists_clean_eq path
  have hplain := names_plain path
  have hlead := lead_absolute hslashes hplain
  have habsolute : isAbsolute (absolute slashes (Path.names path)) = true :=
    hpath ▸ isAbsolute_clean path
  rw [hpath, clean, if_pos habsolute, hlead, names_absolute hslashes hplain]

section Directory

variable {directory path : Text}

theorem clean_normalize (directory path : Text) :
    clean (normalize directory path) = normalize directory path := clean_clean _

theorem join_of_isAbsolute (h : isAbsolute path = true) : join directory path = path := if_pos h

theorem normalize_of_isAbsolute (h : isAbsolute path = true) :
    normalize directory path = clean path := by
  rw [Path.normalize, join_of_isAbsolute h]

theorem isAbsolute_of_clean (h : clean path = path) : isAbsolute path = true :=
  h ▸ isAbsolute_clean path

theorem normalize_of_clean (h : clean path = path) : normalize directory path = path :=
  (normalize_of_isAbsolute (isAbsolute_of_clean h)).trans h

end Directory

end Recheck.Proofs.Paths
