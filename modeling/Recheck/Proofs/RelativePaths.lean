import Recheck.Proofs.Paths

/-!
The way from a directory to a path. The names of the path can be told from the directory and the
way, so no two normalized paths behind one slash are reached in the same way.
-/

namespace Recheck.Proofs.RelativePaths

open Recheck.Path
open Recheck.Proofs.Paths

theorem exists_common (names base : List Text) :
    ∃ common, names = common ++ (afterCommon names base).1 ∧
      base = common ++ (afterCommon names base).2 := by
  fun_induction afterCommon names base with
  | case1 names name base ih =>
      obtain ⟨common, hnames, hbase⟩ := ih
      exact ⟨name :: common, congrArg _ hnames, congrArg _ hbase⟩
  | case2 name names other base hne => exact ⟨[], rfl, rfl⟩
  | case3 names base hends => exact ⟨[], rfl, rfl⟩

variable {directory : Text}

/-- The names of a path in a working directory. -/
def namesFrom (directory path : Text) : List Text := names (join directory path)

theorem namesFrom_of_isAbsolute {path : Text} (h : isAbsolute path = true) :
    namesFrom directory path = names path := by
  rw [namesFrom, join_of_isAbsolute h]

/-- The names on the way from the directory `start` to a path. -/
def way (directory path start : Text) : List Text :=
  (afterCommon (namesFrom directory path) (namesFrom directory start)).2.map (fun _ => up) ++
    (afterCommon (namesFrom directory path) (namesFrom directory start)).1

theorem way_cases (directory path start : Text) : ∃ common back down,
    namesFrom directory path = common ++ down ∧ namesFrom directory start = common ++ back ∧
      way directory path start = List.replicate back.length up ++ down ∧ up ∉ down := by
  obtain ⟨common, hpath, hstart⟩ :=
    exists_common (namesFrom directory path) (namesFrom directory start)
  refine ⟨common, _, _, hpath, hstart, by rw [way, List.map_const'], fun hup => ?_⟩
  have hmem : up ∈ namesFrom directory path := hpath ▸ List.mem_append_right common hup
  exact (names_plain _ up hmem).2.2.2 rfl

theorem isName_way {path start name : Text} (h : name ∈ way directory path start) :
    IsName name := by
  obtain ⟨common, back, down, hpath, -, hway, -⟩ := way_cases directory path start
  rw [hway, List.mem_append] at h
  rcases h with hup | hdown
  · obtain rfl := List.eq_of_mem_replicate hup
    exact ⟨by simp [up], by simp [up], by simp [up]⟩
  · exact (names_plain _ name (hpath ▸ List.mem_append_right common hdown)).isName

theorem relative_eq (directory path start : Text) : relative directory path start =
    if (way directory path start).isEmpty then ['.'] else glue (way directory path start) := rfl

theorem parts_relative (directory path start : Text) :
    parts (relative directory path start) = way directory path start := by
  rw [relative_eq]
  split
  · next hempty =>
      rw [List.isEmpty_iff.mp hempty]
      rfl
  · exact parts_glue_of_isName fun name hname => isName_way hname

theorem lead_relative (directory path start : Text) :
    lead (relative directory path start) = [] := by
  rw [relative_eq]
  split
  · rfl
  · exact lead_absolute_of_isName (.inl rfl) fun name hname => isName_way hname

/-- The way from a directory to a path, taken from the names of the directory, leads to those of the
path. -/
theorem climb_way (directory path start : Text) :
    climb (namesFrom directory start).reverse (way directory path start) =
      namesFrom directory path := by
  obtain ⟨common, back, down, hpath, hstart, hway, hdown⟩ := way_cases directory path start
  rw [hstart, hway, hpath, List.reverse_append, ← List.length_reverse, climb_ups,
    climb_of_plain fun name hname hup => hdown (hup ▸ hname), List.reverse_reverse]

theorem normalize_within_relative {start : Text} (hstart : lead start = ['/']) (path : Text) :
    normalize directory (within start (relative directory path start)) =
      absolute ['/'] (namesFrom directory path) := by
  have hnames : ∀ name ∈ parts start ++ way directory path start, IsName name := by
    intro name hname
    rcases List.mem_append.mp hname with hname | hname
    · exact isName_of_mem_parts hname
    · exact isName_way hname
  have hwithin : within start (relative directory path start) =
      absolute ['/'] (parts start ++ way directory path start) := by
    rw [within, if_neg (by simp [isAbsolute, lead_relative]), hstart, parts_relative]
    rfl
  have hlead : lead (absolute ['/'] (parts start ++ way directory path start)) = ['/'] :=
    lead_absolute_of_isName (.inr (.inl rfl)) hnames
  have hbase : namesFrom directory start = names start :=
    namesFrom_of_isAbsolute (by rw [isAbsolute, hstart]; rfl)
  have hclimb : names (absolute ['/'] (parts start ++ way directory path start)) =
      namesFrom directory path := by
    rw [names, absolute, List.singleton_append, parts_slash, parts_glue_of_isName hnames,
      climb_append]
    have hway := climb_way directory path start
    rw [hbase] at hway
    exact hway
  rw [hwithin, normalize_of_isAbsolute (by rw [isAbsolute, hlead]; rfl), clean, hclimb, isAbsolute,
    hlead]
  rfl

theorem namesFrom_eq_of_way {path path' start : Text}
    (h : way directory path start = way directory path' start) :
    namesFrom directory path = namesFrom directory path' := by
  rw [← climb_way directory path start, h, climb_way]

/-- A normalized path behind one slash. -/
def Rooted (path : Text) : Prop := clean path = path ∧ lead path = ['/']

theorem Rooted.isAbsolute {path : Text} (h : Rooted path) : isAbsolute path = true :=
  isAbsolute_of_clean h.1

theorem Rooted.eq_absolute {path : Text} (h : Rooted path) :
    path = absolute ['/'] (names path) := by
  calc path
    _ = clean path := h.1.symm
    _ = absolute ['/'] (names path) := by rw [clean, if_pos h.isAbsolute, h.2]

theorem Rooted.normalize_within_relative {path start : Text} (h : Rooted path)
    (hstart : lead start = ['/']) :
    normalize directory (within start (relative directory path start)) = path := by
  rw [RelativePaths.normalize_within_relative hstart, namesFrom_of_isAbsolute h.isAbsolute,
    ← h.eq_absolute]

theorem relative_injective {path path' start : Text} (hpath : Rooted path)
    (hpath' : Rooted path') (h : relative directory path start = relative directory path' start) :
    path = path' := by
  have hway : way directory path start = way directory path' start := by
    rw [← parts_relative, h, parts_relative]
  have hnames := namesFrom_eq_of_way hway
  rw [namesFrom_of_isAbsolute hpath.isAbsolute, namesFrom_of_isAbsolute hpath'.isAbsolute] at hnames
  rw [hpath.eq_absolute, hnames, ← hpath'.eq_absolute]

end Recheck.Proofs.RelativePaths
