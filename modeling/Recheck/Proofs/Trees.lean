import Recheck.Disk.Walk
import Recheck.Proofs.Paths
import Recheck.Session

/-!
Looking up a path where no link is in the way. Such a path stands for itself, its names lead to
the place that it names, and a walk from a directory above finds the file that is there.
-/

namespace Recheck.Proofs.Trees

open Recheck.Path
open Recheck.Proofs.Paths

/-- A name that a file can have. -/
def Proper (name : Text) : Prop := Plain name ∧ '\x00' ∉ name

/-- The absolute path with some names. -/
def pathOf (names : List Text) : Text := absolute ['/'] names

/-- No link stands at the end of the names or on the way there. -/
def Unlinked (disk : Disk) (names : List Text) : Prop :=
  ∀ front, front <+: names → ∀ target, disk.at? front ≠ some (.link target)

theorem Unlinked.of_isPrefix {disk : Disk} {names front : List Text} (h : Unlinked disk names)
    (hfront : front <+: names) : Unlinked disk front :=
  fun first hfirst => h first (hfirst.trans hfront)

theorem plain_of_proper {names : List Text} (h : ∀ name ∈ names, Proper name) :
    ∀ name ∈ names, Plain name := fun name hname => (h name hname).1

theorem parts_pathOf {names : List Text} (h : ∀ name ∈ names, Plain name) :
    parts (pathOf names) = names := (parts_slash (glue names)).trans (parts_glue h)

theorem lead_pathOf {names : List Text} (h : ∀ name ∈ names, Plain name) :
    lead (pathOf names) = ['/'] := lead_absolute (.inl rfl) h

theorem isAbsolute_pathOf {names : List Text} (h : ∀ name ∈ names, Plain name) :
    isAbsolute (pathOf names) = true := by
  rw [isAbsolute, lead_pathOf h]
  rfl

theorem tidy_pathOf {names : List Text} (h : ∀ name ∈ names, Plain name) :
    tidy (pathOf names) = pathOf names := by
  rw [tidy, lead_pathOf h, parts_pathOf h]
  rfl

theorem lead_glue {names : List Text} (h : ∀ name ∈ names, Plain name) : lead (glue names) = [] :=
  lead_absolute_of_isName (.inl rfl) fun name hname => (h name hname).isName

theorem isAbsolute_glue {names : List Text} (h : ∀ name ∈ names, Plain name) :
    isAbsolute (glue names) = false := by
  rw [isAbsolute, lead_glue h]
  rfl

theorem within_pathOf {root names : List Text} (hroot : ∀ name ∈ root, Plain name)
    (h : ∀ name ∈ names, Plain name) :
    within (pathOf root) (glue names) = pathOf (root ++ names) := by
  rw [within, if_neg (by simp [isAbsolute_glue h]), lead_pathOf hroot, parts_pathOf hroot,
    parts_glue h]
  rfl

theorem within_pathOf_self {names : List Text} (h : ∀ name ∈ names, Plain name) (root : Text) :
    within root (pathOf names) = pathOf names := by
  rw [within, if_pos (isAbsolute_pathOf h), tidy_pathOf h]

theorem glue_cons_cons (name next : Text) (names : List Text) :
    glue (name :: next :: names) = name ++ '/' :: glue (next :: names) := by
  simp [glue, List.intercalate_cons_cons]

theorem glue_append_cons {front : List Text} (h : front ≠ []) (name : Text) (back : List Text) :
    glue (front ++ name :: back) = glue front ++ '/' :: glue (name :: back) := by
  induction front with
  | nil => exact absurd rfl h
  | cons first front ih =>
      cases front with
      | nil => simp [glue, List.intercalate_cons_cons]
      | cons next front =>
          have hrest := ih (List.cons_ne_nil next front)
          rw [List.cons_append, List.cons_append, glue_cons_cons, glue_cons_cons,
            List.append_assoc, List.cons_append, ← hrest, List.cons_append]

theorem nul_notMem_glue {names : List Text} (h : ∀ name ∈ names, '\x00' ∉ name) :
    '\x00' ∉ glue names := by
  induction names with
  | nil => simp [glue]
  | cons name names ih =>
      obtain ⟨hname, hnames⟩ := List.forall_mem_cons.mp h
      cases names with
      | nil => simpa [glue] using hname
      | cons next names =>
          rw [glue_cons_cons, List.mem_append, List.mem_cons, not_or, not_or]
          exact ⟨hname, by decide, ih hnames⟩

theorem nul_notMem_pathOf {names : List Text} (h : ∀ name ∈ names, Proper name) :
    '\x00' ∉ pathOf names := by
  rw [pathOf, absolute, List.mem_append, not_or]
  exact ⟨by decide, nul_notMem_glue fun name hname => (h name hname).2⟩

theorem splitOn_pathOf {names : List Text} (h : ∀ name ∈ names, Plain name) :
    List.splitOn '/' (pathOf names) = [] :: if names = [] then [[]] else names := by
  have hslash : List.splitOn '/' (pathOf names) = [] :: List.splitOn '/' (glue names) := by
    simp [pathOf, absolute, List.splitOn_cons_eq_if_modifyHead]
  rw [hslash]
  cases names with
  | nil => simp [glue]
  | cons name names =>
      rw [if_neg (by simp), glue,
        List.splitOn_intercalate '/' (fun n hn => (h n hn).2.1) (List.cons_ne_nil name names)]

theorem glue_isPrefix (front back : List Text) : glue front <+: glue (front ++ back) := by
  cases back with
  | nil => exact ⟨[], by rw [List.append_nil, List.append_nil]⟩
  | cons name back =>
      by_cases hfront : front = []
      · rw [hfront]
        exact List.nil_prefix
      · rw [glue_append_cons hfront]
        exact List.prefix_append _ _

theorem byteCount_append (t t' : Text) :
    Text.byteCount (t ++ t') = Text.byteCount t + Text.byteCount t' := by
  have hfrom : ∀ (t : Text) (n : Nat),
      t.foldl (fun n c => n + c.utf8Size) n = n + Text.byteCount t := by
    intro t
    induction t with
    | nil => simp [Text.byteCount]
    | cons c t ih =>
        intro n
        have hcount : Text.byteCount (c :: t) = 0 + c.utf8Size + Text.byteCount t := ih _
        rw [List.foldl_cons, ih, hcount]
        omega
  rw [Text.byteCount, List.foldl_append, hfrom]
  rfl

theorem byteCount_pathOf_le (front back : List Text) :
    Text.byteCount (pathOf front) ≤ Text.byteCount (pathOf (front ++ back)) := by
  obtain ⟨rest, hrest⟩ := glue_isPrefix front back
  rw [pathOf, pathOf, absolute, absolute, ← hrest, ← List.append_assoc, byteCount_append _ rest]
  exact Nat.le_add_right _ _

theorem at?_append (front back : List Text) (node : Node) :
    Node.at? (front ++ back) node = (Node.at? front node).bind (Node.at? back) := by
  induction front generalizing node with
  | nil => simp [Node.at?]
  | cons name front ih =>
      cases node with
      | directory entries =>
          cases hentry : entries.lookup name with
          | none => simp [Node.at?, hentry]
          | some node => simp [Node.at?, hentry, ih]
      | file bytes changed => simp [Node.at?]
      | link target => simp [Node.at?]

section

variable {disk : Disk} {beyond : List Text → List Text → Except Disk.Obstacle (List Text)}

variable (beyond) in
theorem locateVia_cons {here : List Text} {name : Text} (hname : Plain name)
    (hlink : ∀ target, disk.at? (here ++ [name]) ≠ some (.link target)) :
    (∀ names, disk.locateVia beyond here (name :: names) = .error .missing) ∨
      (∀ names, disk.locateVia beyond here (name :: names) = .error .tooLong) ∨
      ∀ names, disk.locateVia beyond here (name :: names) =
        disk.locateVia beyond (here ++ [name]) names := by
  obtain ⟨hne, -, hdot, hup⟩ := hname
  have hstay : ¬ (name = [] ∨ name = ['.']) := not_or.mpr ⟨hne, hdot⟩
  simp only [Disk.locateVia, if_neg hstay, if_neg hup]
  split
  · exact .inl fun _ => rfl
  · split
    · exact .inr (.inl fun _ => rfl)
    · split
      · exact .inl fun _ => rfl
      · next target hat => exact absurd hat (hlink target)
      · exact .inr (.inr fun _ => rfl)

theorem locateVia_unlinked {here names : List Text} (hplain : ∀ name ∈ names, Plain name)
    (hunlinked : ∀ front, front <+: names → ∀ target,
      disk.at? (here ++ front) ≠ some (.link target)) :
    disk.locateVia beyond here names = .ok (here ++ names) ∨
      disk.locateVia beyond here names = .error .missing ∨
      disk.locateVia beyond here names = .error .tooLong := by
  induction names generalizing here with
  | nil => simp [Disk.locateVia]
  | cons name names ih =>
      obtain ⟨hname, hnames⟩ := List.forall_mem_cons.mp hplain
      have hfirst : [name] <+: name :: names := List.prefix_append [name] names
      rcases locateVia_cons beyond hname (hunlinked [name] hfirst) with hmissing | hlong | hon
      · exact .inr (.inl (hmissing names))
      · exact .inr (.inr (hlong names))
      · have hrest := @ih (here ++ [name]) hnames fun front hfront => by
          rw [List.append_assoc]
          exact hunlinked ([name] ++ front) (List.cons_prefix_cons.mpr ⟨rfl, hfront⟩)
        rw [List.append_assoc] at hrest
        rwa [hon]

theorem locateVia_front {here front back place : List Text} (hplain : ∀ name ∈ front, Plain name)
    (hunlinked : ∀ first, first <+: front → ∀ target,
      disk.at? (here ++ first) ≠ some (.link target))
    (h : disk.locateVia beyond here (front ++ back) = .ok place) :
    disk.locateVia beyond here front = .ok (here ++ front) := by
  induction front generalizing here with
  | nil => simp [Disk.locateVia]
  | cons name front ih =>
      obtain ⟨hname, hfront⟩ := List.forall_mem_cons.mp hplain
      have hfirst : [name] <+: name :: front := List.prefix_append [name] front
      rw [List.cons_append] at h
      rcases locateVia_cons beyond hname (hunlinked [name] hfirst) with hmissing | hlong | hon
      · simp [hmissing] at h
      · simp [hlong] at h
      · rw [hon] at h ⊢
        have hrest := @ih (here ++ [name]) hfront (fun first hfirst => by
          rw [List.append_assoc]
          exact hunlinked ([name] ++ first) (List.cons_prefix_cons.mpr ⟨rfl, hfirst⟩)) h
        rwa [List.append_assoc] at hrest

end

variable {disk : Disk} {names : List Text}

theorem locate_pathOf (disk : Disk) (links : Nat) : ∃ beyond, ∀ names,
    (∀ name ∈ names, Plain name) → disk.locate links [] (List.splitOn '/' (pathOf names)) =
      disk.locateVia beyond [] names := by
  obtain ⟨beyond, hbeyond⟩ : ∃ beyond, disk.locate links = disk.locateVia beyond := by
    cases links with
    | zero => exact ⟨_, rfl⟩
    | succ links => exact ⟨_, rfl⟩
  refine ⟨beyond, fun names h => ?_⟩
  have hroot : (disk.at? []).any Node.isDirectory = true := rfl
  rw [hbeyond, splitOn_pathOf h]
  cases names with
  | nil => simp [Disk.locateVia, hroot]
  | cons name names => simp [Disk.locateVia.eq_def disk beyond [] ([] :: _), hroot]

theorem placeOf_cases (h : ∀ name ∈ names, Plain name) (hunlinked : Unlinked disk names) :
    disk.placeOf (pathOf names) = .ok names ∨ disk.placeOf (pathOf names) = .error .missing ∨
      disk.placeOf (pathOf names) = .error .tooLong := by
  unfold Disk.placeOf
  split
  · exact .inr (.inr rfl)
  · obtain ⟨beyond, hlocate⟩ := locate_pathOf disk Disk.maxLinks
    rw [hlocate names h]
    exact locateVia_unlinked h hunlinked

theorem followVia_unlinked {inside : Disk.Trail → List Text → List Text →
      Except Text (Disk.Trail × List Text)} {trail : Disk.Trail} {here names : List Text}
    (hplain : ∀ name ∈ names, Plain name)
    (hunlinked : ∀ front, front <+: names → ∀ target,
      disk.at? (here ++ front) ≠ some (.link target)) :
    disk.followVia inside trail here names = .ok (trail, here ++ names) := by
  induction names generalizing here with
  | nil => simp [Disk.followVia]
  | cons name names ih =>
      obtain ⟨⟨hne, -, hdot, hup⟩, hnames⟩ := List.forall_mem_cons.mp hplain
      have hlink := hunlinked [name] (List.prefix_append [name] names)
      have hrest := @ih (here ++ [name]) hnames fun front hfront => by
        rw [List.append_assoc]
        exact hunlinked ([name] ++ front) (List.cons_prefix_cons.mpr ⟨rfl, hfront⟩)
      have hstay : ¬ (name = [] ∨ name = ['.']) := not_or.mpr ⟨hne, hdot⟩
      rw [List.append_assoc] at hrest
      rw [Disk.followVia, if_neg hstay, if_neg hup]
      dsimp only
      split
      · next target hat => exact absurd hat (hlink target)
      · exact hrest

theorem pathWithoutLinks_pathOf (h : ∀ name ∈ names, Plain name) (hunlinked : Unlinked disk names) :
    disk.pathWithoutLinks (pathOf names) = pathOf names := by
  have hfollow : disk.withoutLinks names = .ok names := by
    obtain ⟨inside, hinside⟩ : ∃ inside,
        disk.follow disk.root.linkCount = disk.followVia inside := by
      cases disk.root.linkCount with
      | zero => exact ⟨_, rfl⟩
      | succ depth => exact ⟨_, rfl⟩
    have hway : disk.followVia inside [] [] names = .ok ([], names) :=
      followVia_unlinked h hunlinked
    rw [Disk.withoutLinks, hinside, hway]
    rfl
  rw [Disk.pathWithoutLinks, parts_pathOf h, hfollow]
  rfl

theorem resolve_pathOf {σ : Type} (p : Project σ) (h : ∀ name ∈ names, Proper name)
    (hunlinked : Unlinked disk names) : p.resolve disk (pathOf names) = .ok (pathOf names) := by
  have hplain := plain_of_proper h
  have hnul := nul_notMem_pathOf h
  rw [Project.resolve, within_pathOf_self hplain, Config.resolve,
    if_neg (by simpa using hnul), Disk.resolve, pathWithoutLinks_pathOf hplain hunlinked]
  rcases placeOf_cases hplain hunlinked with hplace | hplace | hplace <;> simp [hplace]

theorem find?_pathOf (h : ∀ name ∈ names, Plain name) (hunlinked : Unlinked disk names)
    {place : List Text} (hfind : disk.find? (pathOf names) = some place) :
    place = names ∧ disk.placeOf (pathOf names) = .ok names := by
  unfold Disk.find? at hfind
  split at hfind
  · cases hfind
  · rcases placeOf_cases h hunlinked with hplace | hplace | hplace
    · rw [hplace] at hfind
      obtain ⟨hplace', -⟩ := Option.filter_eq_some_iff.mp hfind
      exact ⟨(Option.some.inj hplace').symm, hplace⟩
    · simp [hplace, Except.toOption] at hfind
    · simp [hplace, Except.toOption] at hfind

theorem file_of_text? (h : ∀ name ∈ names, Plain name) (hunlinked : Unlinked disk names)
    {content : Text} (htext : disk.text? (pathOf names) = some content) :
    ∃ bytes changed, disk.at? names = some (.file bytes changed) ∧
      disk.changed? (pathOf names) = some changed ∧ disk.placeOf (pathOf names) = .ok names := by
  unfold Disk.text? Disk.bytes? at htext
  split at htext
  · next bytes changed hnode =>
      obtain ⟨place, hfind, hat⟩ := Option.bind_eq_some_iff.mp hnode
      obtain ⟨rfl, hplace⟩ := find?_pathOf h hunlinked hfind
      exact ⟨bytes, changed, hat, by rw [Disk.changed?, hnode], hplace⟩
  · cases htext

variable {front back : List Text}

theorem placeOf_front (h : ∀ name ∈ front ++ back, Plain name)
    (hunlinked : Unlinked disk (front ++ back))
    (hplace : disk.placeOf (pathOf (front ++ back)) = .ok (front ++ back)) :
    disk.placeOf (pathOf front) = .ok front := by
  have hfront : ∀ name ∈ front, Plain name :=
    fun name hname => h name (List.mem_append_left back hname)
  have hle := byteCount_pathOf_le front back
  unfold Disk.placeOf at hplace ⊢
  split at hplace
  · cases hplace
  · rw [if_neg (by omega)]
    obtain ⟨beyond, hlocate⟩ := locate_pathOf disk Disk.maxLinks
    rw [hlocate _ h] at hplace
    rw [hlocate _ hfront]
    exact locateVia_front hfront (hunlinked.of_isPrefix (List.prefix_append front back)) hplace

theorem directory_of_at? {node : Node} (hat : disk.at? (front ++ back) = some node)
    (hback : back ≠ []) :
    ∃ entries, disk.at? front = some (.directory entries) ∧
      Node.at? back (.directory entries) = some node := by
  rw [Disk.at?, at?_append] at hat
  obtain ⟨above, hfront, hbelow⟩ := Option.bind_eq_some_iff.mp hat
  cases back with
  | nil => exact absurd rfl hback
  | cons name back =>
      cases above with
      | directory entries => exact ⟨entries, hfront, hbelow⟩
      | file bytes changed => simp [Node.at?] at hbelow
      | link target => simp [Node.at?] at hbelow

theorem node?_of_placeOf {node : Node} (hplace : disk.placeOf (pathOf names) = .ok names)
    (hat : disk.at? names = some node) :
    disk.find? (pathOf names) = some names ∧ disk.node? (pathOf names) = some node := by
  have hfind : disk.find? (pathOf names) = some names := by
    have hne : (pathOf names).isEmpty = false := rfl
    simp [Disk.find?, hne, hplace, hat, Except.toOption]
  exact ⟨hfind, by rw [Disk.node?, hfind, Option.bind_some, hat]⟩

theorem mem_of_lookup {α β : Type} [BEq α] [LawfulBEq α] {entries : List (α × β)} {a : α} {b : β}
    (h : entries.lookup a = some b) : (a, b) ∈ entries := by
  induction entries with
  | nil => simp at h
  | cons entry entries ih =>
      obtain ⟨a', b'⟩ := entry
      rw [List.lookup_cons] at h
      split at h
      · next heq =>
          obtain rfl := eq_of_beq heq
          obtain rfl := Option.some.inj h
          exact List.mem_cons_self
      · exact List.mem_cons_of_mem _ (ih h)

theorem mem_listings {leads : List Text → Bool} {skip : Text → Bool} {here listed : List Text}
    {entries : List (Text × Node)} {name : Text} {node : Node} (hentry : (name, node) ∈ entries)
    (hskip : skip name = false) (hlisted : listed ∈ node.listing leads skip (here ++ [name])) :
    listed ∈ Node.listings leads skip here entries := by
  induction entries with
  | nil => cases hentry
  | cons entry entries ih =>
      obtain ⟨name', node'⟩ := entry
      rw [Node.listings, List.mem_append]
      rcases List.mem_cons.mp hentry with heq | hentry
      · obtain ⟨rfl, rfl⟩ := Prod.mk.inj heq
        left
        rwa [hskip]
      · exact .inr (ih hentry)

theorem mem_listing {leads : List Text → Bool} {skip : Text → Bool} {here dirs : List Text}
    {name : Text} {node : Node} {bytes : ByteArray} {changed : Int}
    (hat : Node.at? (dirs ++ [name]) node = some (.file bytes changed))
    (hskip : ∀ dir ∈ dirs, skip dir = false) (hleads : leads (here ++ (dirs ++ [name])) = false) :
    here ++ (dirs ++ [name]) ∈ node.listing leads skip here := by
  induction dirs generalizing node here with
  | nil =>
      cases node with
      | file | link => simp [Node.at?] at hat
      | directory entries =>
          rw [List.nil_append, Node.at?] at hat
          obtain ⟨child, hlookup, hchild⟩ := Option.bind_eq_some_iff.mp hat
          obtain rfl := Option.some.inj hchild
          rw [Node.listing, List.mem_append, List.mem_filterMap]
          left
          refine ⟨(name, .file bytes changed), mem_of_lookup hlookup, ?_⟩
          simpa [Node.isDirectory] using hleads
  | cons dir dirs ih =>
      obtain ⟨hdir, hdirs⟩ := List.forall_mem_cons.mp hskip
      cases node with
      | file | link => simp [Node.at?] at hat
      | directory entries =>
          rw [List.cons_append, Node.at?] at hat
          obtain ⟨child, hlookup, hchild⟩ := Option.bind_eq_some_iff.mp hat
          have hinside :
              here ++ [dir] ++ (dirs ++ [name]) ∈ child.listing leads skip (here ++ [dir]) :=
            ih hchild hdirs (by simpa using hleads)
          rw [Node.listing, List.mem_append]
          right
          exact mem_listings (mem_of_lookup hlookup) hdir (by simpa using hinside)

theorem mem_walk {root dirs : List Text} {name content : Text} {skip : Text → Bool}
    (h : ∀ part ∈ root ++ (dirs ++ [name]), Plain part)
    (hunlinked : Unlinked disk (root ++ (dirs ++ [name]))) (hskip : ∀ dir ∈ dirs, skip dir = false)
    (htext : disk.text? (pathOf (root ++ (dirs ++ [name]))) = some content) :
    disk.isFile (pathOf root) = false ∧ dirs ++ [name] ∈ disk.walk skip (pathOf root) := by
  obtain ⟨bytes, changed, hat, -, hplace⟩ := file_of_text? h hunlinked htext
  obtain ⟨entries, hroot, hbelow⟩ := directory_of_at? hat (by simp)
  obtain ⟨hfind, hnode⟩ := node?_of_placeOf (placeOf_front h hunlinked hplace) hroot
  refine ⟨by simp [Disk.isFile, hnode, Node.isFile], ?_⟩
  have hleads : disk.leadsToDirectory root ([] ++ (dirs ++ [name])) = false := by
    simp [Disk.leadsToDirectory, hat]
  simp only [Disk.walk, hfind, hroot]
  exact mem_listing hbelow hskip hleads

end Recheck.Proofs.Trees
