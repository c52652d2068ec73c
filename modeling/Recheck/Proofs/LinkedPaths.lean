import Mathlib.Data.List.Perm.Subperm
import Recheck.Proofs.Trees

/-!
Ways over links. Opening a file follows the links on the way one after the other, and only so
many; the path without links is found by following them inside one another, and no link twice.
Where a file can be opened, both end at the same place.
-/

namespace Recheck.Proofs.LinkedPaths

open Recheck.Path
open Recheck.Proofs.Paths
open Recheck.Proofs.Trees

/-- A name that is looked for: plain, and not too long. -/
def Fit (name : Text) : Prop := Plain name ∧ Text.byteCount name ≤ Disk.maxNameBytes

/-- The directory from which the target of a link leads on. -/
def base (link : List Text) (target : Text) : List Text :=
  if isAbsolute target then [] else link.dropLast

/-- The names lead from a directory to a place; the number counts the links on the way, with
those on the ways of their targets. -/
inductive Leads (disk : Disk) : List Text → List Text → List Text → Nat → Prop
  | here (place : List Text) : Leads disk place [] place 0
  | stay {here names there : List Text} {name : Text} {n : Nat} (hname : name = [] ∨ name = ['.'])
      (hrest : Leads disk here names there n) : Leads disk here (name :: names) there n
  | up {here names there : List Text} {n : Nat} (hrest : Leads disk here.dropLast names there n) :
      Leads disk here (up :: names) there n
  | down {here names there : List Text} {name : Text} {n : Nat} (hname : Fit name)
      (hlink : ∀ target, disk.at? (here ++ [name]) ≠ some (.link target))
      (hrest : Leads disk (here ++ [name]) names there n) : Leads disk here (name :: names) there n
  | follow {here names place there : List Text} {name target : Text} {a b : Nat} (hname : Fit name)
      (hlink : disk.at? (here ++ [name]) = some (.link target))
      (htarget : Leads disk (base (here ++ [name]) target) (List.splitOn '/' target) place a)
      (hrest : Leads disk place names there b) : Leads disk here (name :: names) there (1 + a + b)

variable {disk : Disk}

theorem Fit.not_stay {name : Text} (h : Fit name) : ¬ (name = [] ∨ name = ['.']) :=
  not_or.mpr ⟨h.1.1, h.1.2.2.1⟩

theorem Fit.ne_up {name : Text} (h : Fit name) : name ≠ up := h.1.2.2.2

theorem base_concat (here : List Text) (name target : Text) :
    base (here ++ [name]) target = if isAbsolute target then [] else here := by
  rw [base, List.dropLast_concat]

theorem not_stay_up : ¬ (up = [] ∨ up = ['.']) := by decide

theorem leads_append {here names names' there : List Text} {n : Nat}
    (h : Leads disk here (names ++ names') there n) :
    ∃ place a b, Leads disk here names place a ∧ Leads disk place names' there b ∧ n = a + b := by
  induction names generalizing here n with
  | nil => exact ⟨here, 0, n, .here here, h, (Nat.zero_add n).symm⟩
  | cons name names ih =>
      cases h with
      | stay hname hrest =>
          obtain ⟨place, a, b, hfirst, hthen, hn⟩ := ih hrest
          exact ⟨place, a, b, .stay hname hfirst, hthen, hn⟩
      | up hrest =>
          obtain ⟨place, a, b, hfirst, hthen, hn⟩ := ih hrest
          exact ⟨place, a, b, .up hfirst, hthen, hn⟩
      | down hname hlink hrest =>
          obtain ⟨place, a, b, hfirst, hthen, hn⟩ := ih hrest
          exact ⟨place, a, b, .down hname hlink hfirst, hthen, hn⟩
      | follow hname hlink htarget hrest =>
          obtain ⟨place, a, b, hfirst, hthen, rfl⟩ := ih hrest
          exact ⟨place, _, b, .follow hname hlink htarget hfirst, hthen, by omega⟩

theorem Leads.unique {here names there there' : List Text} {n n' : Nat}
    (h : Leads disk here names there n) (h' : Leads disk here names there' n') :
    there = there' ∧ n = n' := by
  induction h generalizing there' n' with
  | here place =>
      cases h'
      exact ⟨rfl, rfl⟩
  | stay hname _ ih =>
      cases h' with
      | stay _ hrest' => exact ih hrest'
      | up => exact absurd hname not_stay_up
      | down hfit => exact absurd hname hfit.not_stay
      | follow hfit => exact absurd hname hfit.not_stay
  | up _ ih =>
      cases h' with
      | stay hname => exact absurd hname not_stay_up
      | up hrest' => exact ih hrest'
      | down hfit => exact absurd rfl hfit.ne_up
      | follow hfit => exact absurd rfl hfit.ne_up
  | down hfit hlink _ ih =>
      cases h' with
      | stay hname => exact absurd hname hfit.not_stay
      | up => exact absurd rfl hfit.ne_up
      | down _ _ hrest' => exact ih hrest'
      | follow _ hlink' => exact absurd hlink' (hlink _)
  | follow hfit hlink _ _ ih ih' =>
      cases h' with
      | stay hname => exact absurd hname hfit.not_stay
      | up => exact absurd rfl hfit.ne_up
      | down _ hlink' => exact absurd hlink (hlink' _)
      | follow _ hlink' htarget' hrest' =>
          obtain rfl := Node.link.inj (Option.some.inj (hlink.symm.trans hlink'))
          obtain ⟨rfl, rfl⟩ := ih htarget'
          obtain ⟨rfl, rfl⟩ := ih' hrest'
          exact ⟨rfl, rfl⟩

theorem Leads.filter {here names there : List Text} {n : Nat} (h : Leads disk here names there n) :
    Leads disk here (names.filter fun name => name ≠ [] ∧ name ≠ ['.']) there n := by
  induction h with
  | here place => exact .here place
  | stay hname _ ih =>
    rwa [List.filter_cons_of_neg (by simpa [Classical.or_iff_not_imp_left] using hname)]
  | up _ ih =>
      rw [List.filter_cons_of_pos (by decide)]
      exact .up ih
  | down hfit hlink _ ih =>
      rw [List.filter_cons_of_pos (by simpa using not_or.mp hfit.not_stay)]
      exact .down hfit hlink ih
  | follow hfit hlink htarget _ _ ih =>
      rw [List.filter_cons_of_pos (by simpa using not_or.mp hfit.not_stay)]
      exact .follow hfit hlink htarget ih

theorem Leads.fit {here names there : List Text} {n : Nat} (h : Leads disk here names there n)
    (hhere : ∀ name ∈ here, Fit name) : ∀ name ∈ there, Fit name := by
  induction h with
  | here place => exact hhere
  | stay _ _ ih => exact ih hhere
  | up _ ih => exact ih fun name hname => hhere name (List.dropLast_subset _ hname)
  | down hfit _ _ ih => exact ih (by simpa [or_imp, forall_and] using ⟨hhere, hfit⟩)
  | follow hfit _ _ _ ih ih' =>
      refine ih' (ih ?_)
      rw [base_concat]
      split
      · simp
      · exact hhere

theorem no_slash {t name : Text} (h : name ∈ List.splitOn '/' t) : '/' ∉ name :=
  not_mem_of_mem_splitOn h

theorem leads_of_locateVia {beyond : List Text → List Text → Except Disk.Obstacle (List Text)}
    (hbeyond : ∀ here names there, (∀ name ∈ names, '/' ∉ name) →
      beyond here names = .ok there → ∃ n, Leads disk here names there n)
    {here names there : List Text} (hnames : ∀ name ∈ names, '/' ∉ name)
    (h : disk.locateVia beyond here names = .ok there) : ∃ n, Leads disk here names there n := by
  induction names generalizing here with
  | nil =>
      obtain rfl := Except.ok.inj h
      exact ⟨0, .here here⟩
  | cons name names ih =>
      obtain ⟨hname, hnames⟩ := List.forall_mem_cons.mp hnames
      rw [Disk.locateVia] at h
      split at h
      · cases h
      split at h
      · next hstay =>
          obtain ⟨n, hrest⟩ := ih hnames h
          exact ⟨n, .stay hstay hrest⟩
      next hstay =>
      obtain ⟨hne, hdot⟩ := not_or.mp hstay
      split at h
      · next hup =>
          obtain ⟨n, hrest⟩ := ih hnames h
          exact ⟨n, hup ▸ .up hrest⟩
      next hup =>
      split at h
      · cases h
      next hshort =>
      have hfit : Fit name := ⟨⟨hne, hname, hdot, hup⟩, Nat.le_of_not_lt hshort⟩
      split at h
      · cases h
      · next target hlink =>
          have hway : ∀ name ∈ List.splitOn '/' target ++ names, '/' ∉ name := by
            intro name hmem
            exact (List.mem_append.mp hmem).elim no_slash (hnames name)
          obtain ⟨n, hleads⟩ := hbeyond _ _ _ hway h
          obtain ⟨place, a, b, htarget, hrest, -⟩ := leads_append hleads
          rw [← base_concat here name] at htarget
          exact ⟨_, .follow hfit hlink htarget hrest⟩
      · next node hlink hnode =>
          obtain ⟨n, hrest⟩ := ih hnames h
          refine ⟨n, .down hfit (fun target htarget => ?_) hrest⟩
          exact hlink target (Option.some.inj (hnode.symm.trans htarget))

theorem leads_of_locate {links : Nat} {here names there : List Text}
    (hnames : ∀ name ∈ names, '/' ∉ name) (h : disk.locate links here names = .ok there) :
    ∃ n, Leads disk here names there n := by
  induction links generalizing here names there with
  | zero => exact leads_of_locateVia (fun _ _ _ _ hcircle => by cases hcircle) hnames h
  | succ links ih => exact leads_of_locateVia (fun _ _ _ hfront hok => ih hfront hok) hnames h

theorem locateVia_of_at? {beyond : List Text → List Text → Except Disk.Obstacle (List Text)}
    {here names : List Text} {node : Node} (hfit : ∀ name ∈ names, Fit name)
    (hat : disk.at? (here ++ names) = some node) (hlink : ∀ target, node ≠ .link target) :
    disk.locateVia beyond here names = .ok (here ++ names) := by
  induction names generalizing here with
  | nil => simp [Disk.locateVia]
  | cons name names ih =>
      obtain ⟨hname, hnames⟩ := List.forall_mem_cons.mp hfit
      obtain ⟨entries, hdirectory, -⟩ := directory_of_at? hat (List.cons_ne_nil name names)
      have hsplit : here ++ name :: names = here ++ [name] ++ names := by simp
      rw [hsplit] at hat ⊢
      have hany : (disk.at? here).any Node.isDirectory = true := by rw [hdirectory]; rfl
      rw [Disk.locateVia, if_neg (by simp [hany]), if_neg hname.not_stay, if_neg hname.ne_up,
        if_neg (Nat.not_lt.mpr hname.2)]
      obtain ⟨first, hfirst, hfirst'⟩ : ∃ first, disk.at? (here ++ [name]) = some first ∧
          ∀ target, first ≠ .link target := by
        cases names with
        | nil => exact ⟨node, by simpa using hat, hlink⟩
        | cons next names =>
            obtain ⟨entries, hdirectory, -⟩ := directory_of_at? hat (List.cons_ne_nil next names)
            exact ⟨_, hdirectory, fun target => Node.noConfusion⟩
      rw [hfirst]
      split
      · next hnone => cases hnone
      · next target heq => exact absurd (Option.some.inj heq) (hfirst' target)
      · exact ih hnames hat

mutual

/-- The places of the links below a node. -/
def linkPlaces : Node → List (List Text)
  | .file _ _ => []
  | .link _ => [[]]
  | .directory entries => linkPlacesIn entries

def linkPlacesIn : List (Text × Node) → List (List Text)
  | [] => []
  | (name, node) :: entries => (linkPlaces node).map (name :: ·) ++ linkPlacesIn entries

end

mutual

theorem length_linkPlaces (node : Node) : (linkPlaces node).length = node.linkCount := by
  cases node with
  | file | link => rfl
  | directory entries => exact length_linkPlacesIn entries

theorem length_linkPlacesIn (entries : List (Text × Node)) :
    (linkPlacesIn entries).length = Node.linkCounts entries := by
  cases entries with
  | nil => rfl
  | cons entry entries =>
      rw [linkPlacesIn, Node.linkCounts, List.length_append, List.length_map,
        length_linkPlaces entry.2, length_linkPlacesIn entries]

end

theorem mem_linkPlacesIn {entries : List (Text × Node)} {name : Text} {node : Node}
    {place : List Text} (hentry : (name, node) ∈ entries) (hplace : place ∈ linkPlaces node) :
    name :: place ∈ linkPlacesIn entries := by
  induction entries with
  | nil => cases hentry
  | cons entry entries ih =>
      rw [linkPlacesIn, List.mem_append]
      rcases List.mem_cons.mp hentry with rfl | hentry
      · exact .inl (List.mem_map_of_mem hplace)
      · exact .inr (ih hentry)

theorem mem_linkPlaces {names : List Text} {node : Node} {target : Text}
    (h : Node.at? names node = some (.link target)) : names ∈ linkPlaces node := by
  induction names generalizing node with
  | nil =>
      obtain rfl := Option.some.inj h
      exact List.mem_singleton.mpr rfl
  | cons name names ih =>
      cases node with
      | file | link => simp [Node.at?] at h
      | directory entries =>
          obtain ⟨child, hlookup, hchild⟩ := Option.bind_eq_some_iff.mp h
          exact mem_linkPlacesIn (mem_of_lookup hlookup) (ih hchild)

theorem length_le_linkCount {links : List (List Text)} (hnodup : links.Nodup)
    (hlinks : ∀ link ∈ links, ∃ target, disk.at? link = some (.link target)) :
    links.length ≤ disk.root.linkCount := by
  rw [← length_linkPlaces]
  refine (List.subperm_of_subset hnodup fun link hlink => ?_).length_le
  obtain ⟨target, htarget⟩ := hlinks link hlink
  exact mem_linkPlaces htarget

/-- The target of the link leads to the place, over so many links. -/
def Weighs (disk : Disk) (link place : List Text) (n : Nat) : Prop :=
  ∃ target, disk.at? link = some (.link target) ∧
    Leads disk (base link target) (List.splitOn '/' target) place n

theorem Weighs.unique {link place place' : List Text} {n n' : Nat} (h : Weighs disk link place n)
    (h' : Weighs disk link place' n') : place = place' ∧ n = n' := by
  obtain ⟨target, hlink, hleads⟩ := h
  obtain ⟨target', hlink', hleads'⟩ := h'
  obtain rfl := Node.link.inj (Option.some.inj (hlink.symm.trans hlink'))
  exact hleads.unique hleads'

/-- A trail while names are followed that lead over `n` links: what it holds of links that were
followed is right, and the links that are still followed lead over `n` links at least. -/
structure Fits (disk : Disk) (trail : Disk.Trail) (links : List (List Text)) (n : Nat) : Prop where
  settled : ∀ link place, trail.lookup link = some (some place) → ∃ a, Weighs disk link place a
  followed : ∀ link, trail.lookup link = some none → link ∈ links
  heavy : ∀ link ∈ links, ∃ place a, Weighs disk link place a ∧ n ≤ a
  nodup : links.Nodup

section

variable {trail trail' : Disk.Trail} {links : List (List Text)}
  {link place : List Text} {n m a : Nat}

theorem Fits.mono (h : Fits disk trail links n) (hm : m ≤ n) : Fits disk trail links m where
  settled := h.settled
  followed := h.followed
  heavy link hlink := by
    obtain ⟨place, a, hweighs, ha⟩ := h.heavy link hlink
    exact ⟨place, a, hweighs, Nat.le_trans hm ha⟩
  nodup := h.nodup

theorem Fits.trans (h : Fits disk trail links n) (h' : Fits disk trail' links m) :
    Fits disk trail' links n := ⟨h'.settled, h'.followed, h.heavy, h.nodup⟩

theorem Fits.not_mem (h : Fits disk trail links n) (hweighs : Weighs disk link place a)
    (ha : a < n) : link ∉ links := by
  intro hmem
  obtain ⟨_, b, hweighs', hb⟩ := h.heavy link hmem
  obtain ⟨-, rfl⟩ := hweighs.unique hweighs'
  omega

theorem Fits.enter (h : Fits disk trail links n) (hweighs : Weighs disk link place a)
    (ha : a < n) : Fits disk ((link, none) :: trail) (link :: links) a where
  settled link' place' hlookup := by
    rw [List.lookup_cons] at hlookup
    split at hlookup
    · cases hlookup
    · exact h.settled link' place' hlookup
  followed link' hlookup := by
    rw [List.lookup_cons] at hlookup
    split at hlookup
    · next heq => exact eq_of_beq heq ▸ List.mem_cons_self
    · exact List.mem_cons_of_mem link (h.followed link' hlookup)
  heavy link' hmem := by
    rcases List.mem_cons.mp hmem with rfl | hmem
    · exact ⟨place, a, hweighs, Nat.le_refl a⟩
    · obtain ⟨place', b, hweighs', hb⟩ := h.heavy link' hmem
      exact ⟨place', b, hweighs', by omega⟩
  nodup := List.nodup_cons.mpr ⟨h.not_mem hweighs ha, h.nodup⟩

theorem Fits.leave (h : Fits disk trail links n) (h' : Fits disk trail' (link :: links) m)
    (hweighs : Weighs disk link place a) : Fits disk ((link, some place) :: trail') links n where
  settled link' place' hlookup := by
    rw [List.lookup_cons] at hlookup
    split at hlookup
    · next heq =>
        obtain rfl := eq_of_beq heq
        obtain rfl := Option.some.inj (Option.some.inj hlookup)
        exact ⟨a, hweighs⟩
    · exact h'.settled link' place' hlookup
  followed link' hlookup := by
    rw [List.lookup_cons] at hlookup
    split at hlookup
    · cases hlookup
    · next hne =>
        rcases List.mem_cons.mp (h'.followed link' hlookup) with rfl | hmem
        · simp at hne
        · exact hmem
  heavy := h.heavy
  nodup := h.nodup

theorem Fits.length_lt (h : Fits disk trail links n) (hweighs : Weighs disk link place a)
    (ha : a < n) : links.length < disk.root.linkCount := by
  have hnodup : (link :: links).Nodup := (h.enter hweighs ha).nodup
  refine length_le_linkCount hnodup fun link' hlink' => ?_
  obtain ⟨_, _, ⟨target, htarget, -⟩, -⟩ := (h.enter hweighs ha).heavy link' hlink'
  exact ⟨target, htarget⟩

end

section

variable {inside : Disk.Trail → List Text → List Text → Except Text (Disk.Trail × List Text)}
  {trail trail' : Disk.Trail} {here names place : List Text} {name target : Text}

theorem followVia_down (hname : Fit name)
    (hlink : ∀ target, disk.at? (here ++ [name]) ≠ some (.link target)) :
    disk.followVia inside trail here (name :: names) =
      disk.followVia inside trail (here ++ [name]) names := by
  rw [Disk.followVia, if_neg hname.not_stay, if_neg hname.ne_up]
  dsimp only
  split
  · next target hat => exact absurd hat (hlink target)
  · rfl

theorem followVia_settled (hname : Fit name)
    (hlink : disk.at? (here ++ [name]) = some (.link target))
    (hlookup : trail.lookup (here ++ [name]) = some (some place)) :
    disk.followVia inside trail here (name :: names) = disk.followVia inside trail place names := by
  rw [Disk.followVia, if_neg hname.not_stay, if_neg hname.ne_up]
  simp only [hlink, hlookup]

theorem followVia_entered (hname : Fit name)
    (hlink : disk.at? (here ++ [name]) = some (.link target))
    (hlookup : trail.lookup (here ++ [name]) = none)
    (hinside : inside ((here ++ [name], none) :: trail) (base (here ++ [name]) target)
      (List.splitOn '/' target) = .ok (trail', place)) :
    disk.followVia inside trail here (name :: names) =
      disk.followVia inside ((here ++ [name], some place) :: trail') place names := by
  rw [base_concat] at hinside
  rw [Disk.followVia, if_neg hname.not_stay, if_neg hname.ne_up]
  simp only [hlink, hlookup, hinside]

end

variable (disk) in
theorem exists_follow_eq (depth : Nat) : ∃ inside, disk.follow depth = disk.followVia inside := by
  cases depth with
  | zero => exact ⟨_, rfl⟩
  | succ depth => exact ⟨_, rfl⟩

/-- What names lead to is found by following them, as deep as there are links that are not
followed yet. -/
theorem follow_of_leads {here names there : List Text} {n : Nat}
    (hleads : Leads disk here names there n) {depth : Nat} {trail : Disk.Trail}
    {links : List (List Text)} (hfits : Fits disk trail links n)
    (hdepth : disk.root.linkCount ≤ links.length + depth) :
    ∃ trail', disk.follow depth trail here names = .ok (trail', there) ∧
      Fits disk trail' links n := by
  induction hleads generalizing depth trail links with
  | here place =>
      obtain ⟨inside, hinside⟩ := exists_follow_eq disk depth
      exact ⟨trail, by rw [hinside, Disk.followVia], hfits⟩
  | stay hname _ ih =>
      obtain ⟨trail', hfollow, hfits'⟩ := ih hfits hdepth
      obtain ⟨inside, hinside⟩ := exists_follow_eq disk depth
      refine ⟨trail', ?_, hfits'⟩
      rw [hinside] at hfollow ⊢
      rwa [Disk.followVia, if_pos hname]
  | up _ ih =>
      obtain ⟨trail', hfollow, hfits'⟩ := ih hfits hdepth
      obtain ⟨inside, hinside⟩ := exists_follow_eq disk depth
      refine ⟨trail', ?_, hfits'⟩
      rw [hinside] at hfollow ⊢
      rwa [Disk.followVia, if_neg not_stay_up, if_pos rfl]
  | down hname hlink _ ih =>
      obtain ⟨trail', hfollow, hfits'⟩ := ih hfits hdepth
      obtain ⟨inside, hinside⟩ := exists_follow_eq disk depth
      refine ⟨trail', ?_, hfits'⟩
      rw [hinside] at hfollow ⊢
      rwa [followVia_down hname hlink]
  | @follow here names place there name target a b hname hlink htarget _ ih ih' =>
      have hweighs : Weighs disk (here ++ [name]) place a := ⟨target, hlink, htarget⟩
      have hlight : a < 1 + a + b := by omega
      have hrest : b ≤ 1 + a + b := by omega
      cases hlookup : trail.lookup (here ++ [name]) with
      | some state =>
          cases state with
          | none => exact absurd (hfits.followed _ hlookup) (hfits.not_mem hweighs hlight)
          | some place' =>
              obtain ⟨a', hweighs'⟩ := hfits.settled _ _ hlookup
              obtain ⟨rfl, -⟩ := hweighs.unique hweighs'
              obtain ⟨trail', hfollow, hfits'⟩ := ih' (hfits.mono hrest) hdepth
              obtain ⟨inside, hinside⟩ := exists_follow_eq disk depth
              refine ⟨trail', ?_, hfits.trans hfits'⟩
              rw [hinside] at hfollow ⊢
              rwa [followVia_settled hname hlink hlookup]
      | none =>
          cases depth with
          | zero =>
              have hlt := hfits.length_lt hweighs hlight
              omega
          | succ depth =>
              obtain ⟨trail₁, hfollow₁, hfits₁⟩ := @ih depth _ _ (hfits.enter hweighs hlight)
                (by rw [List.length_cons]; omega)
              have hleave := hfits.leave hfits₁ hweighs
              obtain ⟨trail₂, hfollow₂, hfits₂⟩ := ih' (hleave.mono hrest) hdepth
              refine ⟨trail₂, ?_, hfits.trans hfits₂⟩
              rw [Disk.follow] at hfollow₂ ⊢
              rwa [followVia_entered hname hlink hlookup hfollow₁]

theorem withoutLinks_of_leads {names there : List Text} {n : Nat}
    (h : Leads disk [] names there n) : disk.withoutLinks names = .ok there := by
  have hfits : Fits disk [] [] n :=
    ⟨fun _ _ h => by simp at h, fun _ h => by simp at h, by simp, List.nodup_nil⟩
  have hdepth : disk.root.linkCount ≤ ([] : List (List Text)).length + disk.root.linkCount := by
    simp
  obtain ⟨trail, hfollow, -⟩ := follow_of_leads h hfits hdepth
  rw [Disk.withoutLinks, hfollow]
  rfl

end Recheck.Proofs.LinkedPaths
