import Recheck.Proofs.LinkedPaths

/-!
Paths without links. They are normalized, with one slash in front unless a link on the way leads
back to itself. A file that can be opened by an absolute path can be opened by the path without
links as well, unless that is too long to be looked up.
-/

namespace Recheck.Proofs.ResolvedPaths

open Recheck.Path
open Recheck.Proofs.LinkedPaths
open Recheck.Proofs.Paths
open Recheck.Proofs.Trees

variable {disk : Disk}

/-- The places to which a trail knows links to lead have plain names. -/
def PlainTrail (trail : Disk.Trail) : Prop :=
  ∀ link place, trail.lookup link = some (some place) → ∀ name ∈ place, Plain name

theorem PlainTrail.cons {trail : Disk.Trail} (h : PlainTrail trail) (link : List Text)
    {state : Option (List Text)}
    (hstate : ∀ place, state = some place → ∀ name ∈ place, Plain name) :
    PlainTrail ((link, state) :: trail) := by
  intro link' place hlookup
  rw [List.lookup_cons] at hlookup
  split at hlookup
  · exact hstate place (Option.some.inj hlookup)
  · exact h link' place hlookup

theorem plain_of_followVia
    {inside : Disk.Trail → List Text → List Text → Except Text (Disk.Trail × List Text)}
    (hinside : ∀ {trail trail' : Disk.Trail} {here names there : List Text},
      PlainTrail trail → (∀ name ∈ here, Plain name) → (∀ name ∈ names, '/' ∉ name) →
      inside trail here names = .ok (trail', there) →
      PlainTrail trail' ∧ ∀ name ∈ there, Plain name)
    {trail trail' : Disk.Trail} {here names there : List Text} (htrail : PlainTrail trail)
    (hhere : ∀ name ∈ here, Plain name) (hnames : ∀ name ∈ names, '/' ∉ name)
    (h : disk.followVia inside trail here names = .ok (trail', there)) :
    PlainTrail trail' ∧ ∀ name ∈ there, Plain name := by
  induction names generalizing trail here with
  | nil =>
      obtain ⟨rfl, rfl⟩ := Prod.mk.inj (Except.ok.inj h)
      exact ⟨htrail, hhere⟩
  | cons name names ih =>
      obtain ⟨hname, hnames⟩ := List.forall_mem_cons.mp hnames
      rw [Disk.followVia] at h
      split at h
      · exact ih htrail hhere hnames h
      next hstay =>
      split at h
      · exact ih htrail (fun name hname => hhere name (List.dropLast_subset _ hname)) hnames h
      next hup =>
      obtain ⟨hne, hdot⟩ := not_or.mp hstay
      have hlink : ∀ part ∈ here ++ [name], Plain part := by
        intro part hpart
        rcases List.mem_append.mp hpart with hpart | hpart
        · exact hhere part hpart
        · obtain rfl := List.mem_singleton.mp hpart
          exact ⟨hne, hname, hdot, hup⟩
      dsimp only at h
      split at h
      · next target hat =>
          split at h
          · cases h
          · next place hlookup => exact ih htrail (htrail _ _ hlookup) hnames h
          · split at h
            · cases h
            · next trail₁ place hentered =>
                have hbase : ∀ part ∈ (if isAbsolute target then [] else here), Plain part := by
                  split
                  · simp
                  · exact hhere
                obtain ⟨htrail₁, hplace⟩ := hinside (htrail.cons _ (by simp)) hbase
                  (fun part hpart => no_slash hpart) hentered
                refine ih (htrail₁.cons _ fun place' hplace' => ?_) hplace hnames h
                obtain rfl := Option.some.inj hplace'
                exact hplace
      · exact ih htrail hlink hnames h

theorem plain_of_follow {depth : Nat} {trail trail' : Disk.Trail} {here names there : List Text}
    (htrail : PlainTrail trail) (hhere : ∀ name ∈ here, Plain name)
    (hnames : ∀ name ∈ names, '/' ∉ name)
    (h : disk.follow depth trail here names = .ok (trail', there)) :
    PlainTrail trail' ∧ ∀ name ∈ there, Plain name := by
  induction depth generalizing trail trail' here names there with
  | zero =>
      exact plain_of_followVia (fun _ _ _ hentered => by cases hentered) htrail hhere hnames h
  | succ depth ih => exact plain_of_followVia ih htrail hhere hnames h

theorem mem_splitOn_of_mem_parts {path name : Text} (h : name ∈ parts path) :
    name ∈ List.splitOn '/' path := (List.mem_filter.mp h).1

theorem pathWithoutLinks_cases (disk : Disk) (path : Text) :
    (∃ names, (∀ name ∈ names, Plain name) ∧ disk.withoutLinks (parts path) = .ok names ∧
        disk.pathWithoutLinks path = pathOf names) ∨
      ∃ stuck, disk.withoutLinks (parts path) = .error stuck ∧
        disk.pathWithoutLinks path = clean stuck := by
  unfold Disk.pathWithoutLinks
  cases hnames : disk.withoutLinks (parts path) with
  | error stuck => exact .inr ⟨stuck, rfl, rfl⟩
  | ok names =>
      refine .inl ⟨names, ?_, rfl, rfl⟩
      unfold Disk.withoutLinks at hnames
      cases hfollow : disk.follow disk.root.linkCount [] [] (parts path) with
      | error stuck => simp [hfollow, Except.map] at hnames
      | ok followed =>
          rw [hfollow] at hnames
          obtain rfl := Except.ok.inj hnames
          have hslash : ∀ name ∈ parts path, '/' ∉ name := fun name hname =>
            no_slash (mem_splitOn_of_mem_parts hname)
          exact (plain_of_follow (fun _ _ h => by simp at h) (by simp) hslash hfollow).2

theorem clean_pathOf {names : List Text} (h : ∀ name ∈ names, Plain name) :
    clean (pathOf names) = pathOf names := by
  rw [clean, if_pos (isAbsolute_pathOf h), lead_pathOf h, pathOf,
    names_absolute (.inl rfl) h]

theorem clean_pathWithoutLinks (disk : Disk) (path : Text) :
    clean (disk.pathWithoutLinks path) = disk.pathWithoutLinks path := by
  rcases pathWithoutLinks_cases disk path with ⟨names, hplain, -, hpath⟩ | ⟨stuck, -, hpath⟩
  · rw [hpath, clean_pathOf hplain]
  · rw [hpath, clean_clean]

theorem resolve_eq_ok {σ : Type} {p : Project σ} {path target : Text}
    (h : p.resolve disk path = .ok target) :
    target = disk.pathWithoutLinks (within p.root path) := by
  unfold Project.resolve Config.resolve Disk.resolve at h
  split at h
  · cases h
  · split at h
    · next path' hpath' =>
        dsimp only at hpath'
        split at hpath'
        · cases hpath'
        · exact (Except.ok.inj h).symm.trans (Except.ok.inj hpath').symm
    · cases h

theorem clean_resolve {σ : Type} {p : Project σ} {path target : Text}
    (h : p.resolve disk path = .ok target) : clean target = target := by
  rw [resolve_eq_ok h, clean_pathWithoutLinks]

theorem parts_tidy {path : Text} (h : isAbsolute path = true) : parts (tidy path) = parts path := by
  have hglue : parts (glue (parts path)) = parts path :=
    parts_glue_of_isName fun name hname => isName_of_mem_parts hname
  have hlead : lead path = ['/'] ∨ lead path = ['/', '/'] := by
    unfold isAbsolute at h
    revert h
    fun_cases lead path <;> simp
  rcases hlead with hlead | hlead
  · rw [tidy, hlead]
    exact (parts_slash _).trans hglue
  · rw [tidy, hlead]
    exact (parts_slash _).trans ((parts_slash _).trans hglue)

theorem placeOf_of_node? {path : Text} {node : Node} (h : disk.node? path = some node) :
    ∃ there, disk.placeOf path = .ok there ∧ disk.at? there = some node := by
  obtain ⟨there, hfind, hat⟩ := Option.bind_eq_some_iff.mp h
  refine ⟨there, ?_, hat⟩
  unfold Disk.find? at hfind
  split at hfind
  · cases hfind
  · obtain ⟨hplace, -⟩ := Option.filter_eq_some_iff.mp hfind
    cases hplaced : disk.placeOf path with
    | error obstacle => simp [hplaced, Except.toOption] at hplace
    | ok place =>
        rw [hplaced] at hplace
        exact congrArg _ (Option.some.inj hplace)

theorem leads_of_placeOf {path : Text} {there : List Text} (h : disk.placeOf path = .ok there) :
    ∃ n, Leads disk [] (parts path) there n := by
  unfold Disk.placeOf at h
  split at h
  · cases h
  · obtain ⟨n, hleads⟩ := leads_of_locate (fun name hname => no_slash hname) h
    exact ⟨n, hleads.filter⟩

theorem placeOf_of_at? {names : List Text} {node : Node} (hfit : ∀ name ∈ names, Fit name)
    (hat : disk.at? names = some node) (hlink : ∀ target, node ≠ .link target)
    (hshort : Text.byteCount (pathOf names) ≤ Disk.maxPathBytes) :
    disk.placeOf (pathOf names) = .ok names := by
  obtain ⟨beyond, hlocate⟩ := locate_pathOf disk Disk.maxLinks
  rw [Disk.placeOf, if_neg (Nat.not_lt.mpr hshort),
    hlocate names fun name hname => (hfit name hname).1]
  have hat' : disk.at? ([] ++ names) = some node := hat
  exact locateVia_of_at? hfit hat' hlink

theorem isFile_resolve {σ : Type} {p : Project σ} {path target : Text}
    (habsolute : isAbsolute path = true) (hfile : disk.isFile path = true)
    (hresolve : p.resolve disk path = .ok target)
    (hshort : Text.byteCount target ≤ Disk.maxPathBytes) : disk.isFile target = true := by
  obtain ⟨node, hnode, hisFile⟩ := (Option.any_eq_true _ _).mp hfile
  obtain ⟨there, hplace, hat⟩ := placeOf_of_node? hnode
  obtain ⟨n, hleads⟩ := leads_of_placeOf hplace
  have hfit : ∀ name ∈ there, Fit name := hleads.fit (by simp)
  have htarget : target = pathOf there := by
    rw [resolve_eq_ok hresolve, within, if_pos habsolute, Disk.pathWithoutLinks,
      parts_tidy habsolute, withoutLinks_of_leads hleads]
    rfl
  subst htarget
  have hlink : ∀ target, node ≠ .link target := by
    rintro target rfl
    cases hisFile
  obtain ⟨-, hthere⟩ := node?_of_placeOf (placeOf_of_at? hfit hat hlink hshort) hat
  rw [Disk.isFile, hthere]
  exact hisFile

end Recheck.Proofs.ResolvedPaths
