import Mathlib.Data.List.Nodup
import Recheck.Proofs.ResolvedPaths
import Recheck.Proofs.Scans

/-!
Walks that leave directories out. Such a walk is the walk through everything, without what is below
a directory that is left out; so what the watcher sees below a directory can be told without it.
-/

namespace Recheck.Proofs.PrunedWalks

open Recheck.Path
open Recheck.Watcher
open Recheck.Proofs.Paths
open Recheck.Proofs.ResolvedPaths
open Recheck.Proofs.Scans
open Recheck.Proofs.Trees

/-- A tree that can be on a disk: the names in a directory are names that a file can have, each
once. -/
inductive Formed : Node → Prop
  | file (bytes : ByteArray) (changed : Int) : Formed (.file bytes changed)
  | link (target : Text) : Formed (.link target)
  | directory {entries : List (Text × Node)} (hnodup : (entries.map Prod.fst).Nodup)
      (hproper : ∀ e ∈ entries, Proper e.1) (hformed : ∀ e ∈ entries, Formed e.2) :
      Formed (.directory entries)

theorem formed_at? {names : List Text} {node node' : Node} (h : Formed node)
    (hat : Node.at? names node = some node') : Formed node' := by
  induction names generalizing node with
  | nil =>
      obtain rfl := Option.some.inj hat
      exact h
  | cons name names ih =>
      cases h with
      | file | link => simp [Node.at?] at hat
      | directory hnodup hproper hformed =>
          obtain ⟨child, hlookup, hchild⟩ := Option.bind_eq_some_iff.mp hat
          exact ih (hformed (name, child) (mem_of_lookup hlookup)) hchild

theorem proper_of_at? {disk : Disk} (h : Formed disk.root) {here : List Text} {name : Text}
    {node : Node} (hat : disk.at? (here ++ [name]) = some node) : Proper name := by
  rw [Disk.at?, at?_append] at hat
  obtain ⟨above, habove, hbelow⟩ := Option.bind_eq_some_iff.mp hat
  cases formed_at? h habove with
  | file | link => simp [Node.at?] at hbelow
  | directory hnodup hproper hformed =>
      obtain ⟨child, hlookup, -⟩ := Option.bind_eq_some_iff.mp hbelow
      exact hproper (name, child) (mem_of_lookup hlookup)

section

variable {leads : List Text → Bool} {skip : Text → Bool}

theorem listings_eq (here : List Text) (entries : List (Text × Node)) :
    Node.listings leads skip here entries = entries.flatMap fun (name, node) =>
      if skip name then [] else node.listing leads skip (here ++ [name]) := by
  induction entries with
  | nil => rfl
  | cons entry entries ih =>
      rw [Node.listings, List.flatMap_cons, ih]

/-- The places in a directory that are no directories. -/
def leaves (leads : List Text → Bool) (here : List Text) (entries : List (Text × Node)) :
    List (List Text) :=
  entries.filterMap fun (name, node) =>
    if node.isDirectory || leads (here ++ [name]) then none else some (here ++ [name])

theorem listing_directory (here : List Text) (entries : List (Text × Node)) :
    (Node.directory entries).listing leads skip here = leaves leads here entries ++
      entries.flatMap fun (name, node) =>
        if skip name then [] else node.listing leads skip (here ++ [name]) := by
  rw [Node.listing, listings_eq, leaves]

theorem of_mem_leaves {here listed : List Text} {entries : List (Text × Node)}
    (h : listed ∈ leaves leads here entries) :
    ∃ name node, (name, node) ∈ entries ∧ listed = here ++ [name] := by
  obtain ⟨⟨name, node⟩, hmem, heq⟩ := List.mem_filterMap.mp h
  dsimp only at heq
  split at heq
  · cases heq
  · exact ⟨name, node, hmem, (Option.some.inj heq).symm⟩

theorem of_mem_listing {node : Node} (h : Formed node) {here listed : List Text}
    (hlisted : listed ∈ node.listing leads skip here) :
    ∃ names, names ≠ [] ∧ listed = here ++ names ∧ ∀ name ∈ names, Proper name := by
  induction h generalizing here listed with
  | file | link => cases hlisted
  | directory hnodup hproper hformed ih =>
      rw [listing_directory, List.mem_append] at hlisted
      rcases hlisted with hleaf | hbelow
      · obtain ⟨name, node, hmem, rfl⟩ := of_mem_leaves hleaf
        exact ⟨[name], List.cons_ne_nil _ _, rfl, by simpa using hproper (name, node) hmem⟩
      · obtain ⟨⟨name, node⟩, hmem, hinside⟩ := List.mem_flatMap.mp hbelow
        dsimp only at hinside
        split at hinside
        · cases hinside
        · obtain ⟨names, -, rfl, hnames⟩ := ih (name, node) hmem hinside
          refine ⟨name :: names, List.cons_ne_nil _ _, by simp, ?_⟩
          exact List.forall_mem_cons.mpr ⟨hproper (name, node) hmem, hnames⟩

/-- The directories on the way from one place to another one below it. -/
def between (here listed : List Text) : List Text := (listed.drop here.length).dropLast

theorem between_append (here names : List Text) :
    between here (here ++ names) = names.dropLast := by
  rw [between, List.drop_left]

/-- A walk that leaves directories out lists what the walk through everything lists on ways
through no such directory, in the same order. -/
theorem listing_eq_filter {node : Node} (h : Formed node) (here : List Text) :
    node.listing leads skip here = (node.listing leads (fun _ => false) here).filter fun listed =>
      (between here listed).all fun dir => !skip dir := by
  induction h generalizing here with
  | file | link => rfl
  | @directory entries hnodup hproper hformed ih =>
      rw [listing_directory, listing_directory, List.filter_append, List.filter_flatMap]
      congr 1
      · -- Between a directory and what is in it nothing is left out.
        symm
        rw [List.filter_eq_self]
        intro listed hlisted
        obtain ⟨name, node, -, rfl⟩ := of_mem_leaves hlisted
        simp [between_append]
      · refine List.flatMap_congr fun ⟨name, node⟩ hmem => ?_
        have hway : ∀ listed ∈ node.listing leads (fun _ => false) (here ++ [name]),
            between here listed = name :: between (here ++ [name]) listed := by
          intro listed hlisted
          obtain ⟨names, hne, rfl, -⟩ := of_mem_listing (hformed (name, node) hmem) hlisted
          rw [between_append, List.append_assoc, between_append]
          exact List.dropLast_cons_of_ne_nil hne
        dsimp only
        split
        · next hskip =>
            symm
            rw [List.filter_eq_nil_iff]
            intro listed hlisted
            simp [hway listed hlisted, hskip]
        · next hskip =>
            rw [ih (name, node) hmem]
            refine List.filter_congr fun listed hlisted => ?_
            simp [hway listed hlisted, hskip]

theorem nodup_leaves {entries : List (Text × Node)} (h : (entries.map Prod.fst).Nodup)
    (here : List Text) : (leaves leads here entries).Nodup := by
  rw [leaves, List.Nodup, List.pairwise_filterMap]
  refine (List.pairwise_map.mp h).imp ?_
  rintro ⟨name, node⟩ ⟨name', node'⟩ hne listed hlisted listed' hlisted' heq
  dsimp only at hlisted hlisted'
  split at hlisted
  · cases hlisted
  · split at hlisted'
    · cases hlisted'
    · rw [← Option.some.inj hlisted, ← Option.some.inj hlisted'] at heq
      exact hne (List.singleton_inj.mp (List.append_cancel_left heq))

theorem nodup_listing {node : Node} (h : Formed node) (here : List Text) :
    (node.listing leads skip here).Nodup := by
  induction h generalizing here with
  | file | link => exact List.nodup_nil
  | @directory entries hnodup hproper hformed ih =>
      -- What is listed below an entry goes on behind the name of the entry.
      have hbelow : ∀ name node listed, (name, node) ∈ entries →
          listed ∈ (if skip name then [] else node.listing leads skip (here ++ [name])) →
            ∃ names, names ≠ [] ∧ listed = here ++ name :: names := by
        intro name node listed hmem hlisted
        split at hlisted
        · cases hlisted
        · obtain ⟨names, hne, rfl, -⟩ := of_mem_listing (hformed (name, node) hmem) hlisted
          exact ⟨names, hne, by simp⟩
      rw [listing_directory, List.nodup_append, List.nodup_flatMap]
      refine ⟨nodup_leaves hnodup here, ⟨?_, ?_⟩, ?_⟩
      · rintro ⟨name, node⟩ hmem
        dsimp only
        split
        · exact List.nodup_nil
        · exact ih (name, node) hmem _
      · refine (List.pairwise_map.mp hnodup).imp_of_mem ?_
        rintro ⟨name, node⟩ ⟨name', node'⟩ hmem hmem' hne
        rw [Function.onFun_apply, List.disjoint_left]
        intro listed hlisted hlisted'
        obtain ⟨names, -, rfl⟩ := hbelow name node listed hmem hlisted
        obtain ⟨names', -, heq⟩ := hbelow name' node' _ hmem' hlisted'
        exact hne (List.cons.inj (List.append_cancel_left heq)).1
      · intro leaf hleaf listed hlisted heq
        obtain ⟨name, node, -, rfl⟩ := of_mem_leaves hleaf
        obtain ⟨⟨name', node'⟩, hmem', hinside⟩ := List.mem_flatMap.mp hlisted
        obtain ⟨names, hne, rfl⟩ := hbelow name' node' listed hmem' hinside
        exact hne (List.cons.inj (List.append_cancel_left heq)).2.symm

end

theorem within_glue_injective {base : Text} {names names' : List Text}
    (h : ∀ name ∈ names, Plain name) (h' : ∀ name ∈ names', Plain name) (hne : names ≠ [])
    (hne' : names' ≠ []) (heq : within base (glue names) = within base (glue names')) :
    names = names' := by
  have hparts : ∀ {names : List Text}, (∀ name ∈ names, Plain name) →
      parts (glue (parts base ++ names)) = parts base ++ names := by
    intro names h
    refine parts_glue_of_isName fun name hname => ?_
    rcases List.mem_append.mp hname with hbase | hbelow
    · exact isName_of_mem_parts hbase
    · exact (h name hbelow).isName
  have hwithin : ∀ {names : List Text}, (∀ name ∈ names, Plain name) → names ≠ [] →
      within base (glue names) = lead base ++ glue (parts base ++ names) := by
    intro names h hne
    have hglue : glue (parts base ++ names) ≠ [] := by
      intro hnil
      have hempty := hparts h
      rw [hnil] at hempty
      exact hne (List.append_eq_nil_iff.mp hempty.symm).2
    rw [within, if_neg (by simp [isAbsolute_glue h]), parts_glue h]
    exact if_neg (by simp [hglue])
  rw [hwithin h hne, hwithin h' hne'] at heq
  have hsame := congrArg parts (List.append_cancel_left heq)
  rw [hparts h, hparts h'] at hsame
  exact List.append_cancel_left hsame

section

variable {disk : Disk} {skip : Text → Bool} {path : Text} (hdisk : Formed disk.root)
include hdisk

theorem walk_eq_filter : disk.walk skip path =
    (disk.walk (fun _ => false) path).filter fun names =>
      names.dropLast.all fun dir => !skip dir := by
  unfold Disk.walk
  cases disk.find? path with
  | none => rfl
  | some top =>
      dsimp only
      cases hat : disk.at? top with
      | none => rfl
      | some node => exact listing_eq_filter (formed_at? hdisk hat) []

theorem of_mem_walk {names : List Text} (h : names ∈ disk.walk skip path) :
    names ≠ [] ∧ ∀ name ∈ names, Proper name := by
  unfold Disk.walk at h
  split at h
  · cases h
  · split at h
    · next node hat =>
        obtain ⟨below, hne, rfl, hproper⟩ := of_mem_listing (formed_at? hdisk hat) h
        exact ⟨hne, hproper⟩
    · cases h

theorem nodup_walk : (disk.walk skip path).Nodup := by
  unfold Disk.walk
  cases disk.find? path with
  | none => exact List.nodup_nil
  | some top =>
      dsimp only
      cases hat : disk.at? top with
      | none => exact List.nodup_nil
      | some node => exact nodup_listing (formed_at? hdisk hat) []

theorem nul_notMem_of_locateVia
    {beyond : List Text → List Text → Except Disk.Obstacle (List Text)}
    (hbeyond : ∀ here names there, beyond here names = .ok there → ∀ name ∈ names, '\x00' ∉ name)
    {here names there : List Text} (h : disk.locateVia beyond here names = .ok there) :
    ∀ name ∈ names, '\x00' ∉ name := by
  induction names generalizing here with
  | nil => simp
  | cons name names ih =>
      rw [List.forall_mem_cons]
      rw [Disk.locateVia] at h
      split at h
      · cases h
      split at h
      · next hstay =>
          refine ⟨?_, ih h⟩
          rcases hstay with rfl | rfl <;> simp
      split at h
      · next hup =>
          subst hup
          exact ⟨by decide, ih h⟩
      split at h
      · cases h
      split at h
      · cases h
      · next target hlink =>
          refine ⟨(proper_of_at? hdisk hlink).2, fun name' hname' => ?_⟩
          exact hbeyond _ _ _ h name' (List.mem_append_right _ hname')
      · next node hlink hnode => exact ⟨(proper_of_at? hdisk hnode).2, ih h⟩

theorem nul_notMem_of_locate {links : Nat} {here names there : List Text}
    (h : disk.locate links here names = .ok there) : ∀ name ∈ names, '\x00' ∉ name := by
  induction links generalizing here names there with
  | zero =>
      refine nul_notMem_of_locateVia hdisk ?_ h
      intro here names there hcircle
      cases hcircle
  | succ links ih => exact nul_notMem_of_locateVia hdisk (fun _ _ _ hok => ih hok) h

theorem nul_notMem_of_placeOf {there : List Text} (h : disk.placeOf path = .ok there) :
    '\x00' ∉ path := by
  unfold Disk.placeOf at h
  split at h
  · cases h
  · have hglue : glue (List.splitOn '/' path) = path := List.intercalate_splitOn '/'
    rw [← hglue]
    exact nul_notMem_glue (nul_notMem_of_locate hdisk h)

end

theorem fst_foldl_record (disk : Disk) {paths : List Text} {seen : Baseline}
    (h : (seen.map Prod.fst ++ paths).Nodup) :
    (paths.foldl (fun seen path =>
      match disk.changed? path with
      | some changed => record path changed seen
      | none => seen) seen).map Prod.fst =
      seen.map Prod.fst ++ paths.filter fun path => (disk.changed? path).isSome := by
  induction paths generalizing seen with
  | nil => simp
  | cons path paths ih =>
      have hnew : path ∉ seen.map Prod.fst := by
        intro hmem
        exact (List.nodup_append.mp h).2.2 path hmem path List.mem_cons_self rfl
      rw [List.foldl_cons]
      cases hchanged : disk.changed? path with
      | some changed =>
          have hkeys := fst_record path changed seen
          rw [if_neg hnew] at hkeys
          rw [ih (by simpa [hkeys] using h), hkeys, List.filter_cons_of_pos (by simp [hchanged])]
          simp
      | none =>
          rw [List.filter_cons_of_neg (by simp [hchanged])]
          exact ih (h.sublist (List.Sublist.append_left (List.sublist_cons_self path paths) _))

theorem fst_scan {disk : Disk} {patterns paths : List Text}
    (h : (paths.flatMap (filesAt disk patterns)).Nodup) :
    (scan disk patterns paths).map Prod.fst =
      (paths.flatMap (filesAt disk patterns)).filter fun path => (disk.changed? path).isSome :=
  fst_foldl_record disk h

/-- Whether a watcher of a directory sees what stands at the end of some names below it: the names
on the way are of no directory that is left out, the last one matches a pattern, and the time of
the last change is told. -/
def isSeen (disk : Disk) (patterns : List Text) (base : Text) (names : List Text) : Bool :=
  (names.dropLast.all fun dir => !isSkipped dir) && isWatched patterns (names.getLast?.getD [])
    && (disk.changed? (within base (glue names))).isSome

theorem scan?_eq_ok {disk : Disk} {path : Text} {node : Node} (hdisk : Formed disk.root)
    (hnode : disk.node? (tidy path) = some node) (patterns : List Text) :
    scan? disk patterns [path] = .ok (scan disk patterns [path]) := by
  obtain ⟨there, hplace, -⟩ := placeOf_of_node? hnode
  have hnul := nul_notMem_of_placeOf hdisk hplace
  have hnone : obstacle? disk path = none := by
    simp [obstacle?, hnul, Disk.probeFile, Disk.probe, Disk.isTooLong, hplace]
  simp [scan?, hnone]

/-- A look at a directory sees exactly what the walk through everything below it comes upon on
ways through no directory that is left out, if the name matches a pattern and the time of the last
change is told; and it sees that in the order of the walk. Neither the way to the directory nor the
name of a file is asked whether it is to be left out. -/
theorem scan_directory {disk : Disk} (hdisk : Formed disk.root) {path : Text}
    (hdirectory : disk.isDirectory (tidy path) = true) (patterns : List Text) :
    ∃ seen, scan? disk patterns [path] = .ok seen ∧
      seen.map Prod.fst = ((disk.walk (fun _ => false) (tidy path)).filter
        (isSeen disk patterns (tidy path))).map fun names => within (tidy path) (glue names) := by
  obtain ⟨node, hnode, hisDirectory⟩ := (Option.any_eq_true _ _).mp hdirectory
  refine ⟨_, scan?_eq_ok hdisk hnode patterns, ?_⟩
  have hfile : disk.isFile (tidy path) = false := by
    rw [Disk.isFile, hnode]
    cases node with
    | directory entries => rfl
    | file | link => cases hisDirectory
  have hfiles : filesAt disk patterns path =
      ((disk.walk isSkipped (tidy path)).filter fun names =>
        isWatched patterns (names.getLast?.getD [])).map fun names =>
          within (tidy path) (glue names) := by
    rw [filesAt]
    exact if_neg (by simp [hfile])
  have hnodup : (filesAt disk patterns path).Nodup := by
    rw [hfiles]
    refine List.Nodup.map_on ?_ ((nodup_walk hdisk).filter _)
    intro names hnames names' hnames' heq
    obtain ⟨hne, hproper⟩ := of_mem_walk hdisk (List.mem_filter.mp hnames).1
    obtain ⟨hne', hproper'⟩ := of_mem_walk hdisk (List.mem_filter.mp hnames').1
    exact within_glue_injective (plain_of_proper hproper) (plain_of_proper hproper') hne hne' heq
  rw [fst_scan (by simpa using hnodup), List.flatMap_singleton, hfiles, List.filter_map,
    walk_eq_filter hdisk, List.filter_filter, List.filter_filter]
  congr 1
  refine List.filter_congr fun names _ => ?_
  simp only [isSeen, Function.comp_apply]
  ac_rfl

/-- What stands in a directory below: a directory with a file that is left out, a link to nothing
and a file. -/
def inside : Node :=
  .directory [("__pycache__", .directory [(['b'], .file ⟨#[]⟩ 0)]), (['c'], .link ['x']),
    (['d'], .file ⟨#[]⟩ 0)]

/-- A disk with a hidden directory that has a hidden file, a link to the directory and the directory
below. -/
def hidden : Disk :=
  ⟨[(['.', 'h'], .directory [(['.', 'a'], .file ⟨#[]⟩ 0), (['l'], .link ['s']), (['s'], inside)])]⟩

theorem formed_hidden : Formed hidden.root := by
  have hinside : Formed inside := by
    refine .directory (by decide) (by simp [Proper, Plain, up]) ?_
    simp only [List.forall_mem_cons]
    refine ⟨.directory (by decide) (by simp [Proper, Plain, up]) ?_, .link _, .file _ _, by simp⟩
    simp only [List.forall_mem_cons]
    exact ⟨.file _ _, by simp⟩
  rw [Disk.root, hidden]
  refine .directory (by decide) (by simp [Proper, Plain, up]) ?_
  simp only [List.forall_mem_cons]
  refine ⟨.directory (by decide) (by simp [Proper, Plain, up]) ?_, by simp⟩
  simp only [List.forall_mem_cons]
  exact ⟨.file _ _, .link _, hinside, by simp⟩

theorem scan_directory_hidden :
    hidden.walk (fun _ => false) ['/', '.', 'h'] =
        [[['.', 'a']], [['s'], ['c']], [['s'], ['d']], [['s'], "__pycache__", ['b']]] ∧
      ∃ seen, scan? hidden [['*']] [['/', '.', 'h']] = .ok seen ∧
        seen.map Prod.fst =
          [['/', '.', 'h', '/', '.', 'a'], ['/', '.', 'h', '/', 's', '/', 'd']] := by
  have hdirectory : hidden.isDirectory (tidy ['/', '.', 'h']) = true := by decide +kernel
  obtain ⟨seen, hscan, hseen⟩ := scan_directory formed_hidden hdirectory [['*']]
  refine ⟨by decide +kernel, seen, hscan, hseen.trans ?_⟩
  decide +kernel

end Recheck.Proofs.PrunedWalks
