import Mathlib.Data.List.DropRight
import Recheck.Proofs.FreshAnswers
import Recheck.Proofs.OwnSources

/-!
Projects in another place. What is said of a file below the root depends on the way to it alone,
with one exception: a root whose own path looks like that of a library has no sources.
-/

namespace Recheck.Proofs.MovedProjects

open Recheck.Path
open Recheck.Proofs.Activities
open Recheck.Proofs.DiskPrograms
open Recheck.Proofs.FreshAnswers
open Recheck.Proofs.OwnSources
open Recheck.Proofs.Paths
open Recheck.Proofs.Queries
open Recheck.Proofs.RelativePaths
open Recheck.Proofs.Trees

/-- From `depth` names below a directory, the names never lead out of it. -/
inductive Stays : Nat → List Text → Prop
  | done (depth : Nat) : Stays depth []
  | down {depth : Nat} {name : Text} {names : List Text} (hname : name ≠ up)
      (h : Stays (depth + 1) names) : Stays depth (name :: names)
  | back {depth : Nat} {names : List Text} (h : Stays depth names) : Stays (depth + 1) (up :: names)

theorem stays_of_plain {names : List Text} (h : ∀ name ∈ names, name ≠ up) (depth : Nat) :
    Stays depth names := by
  induction names generalizing depth with
  | nil => exact .done depth
  | cons name names ih =>
      obtain ⟨hname, hnames⟩ := List.forall_mem_cons.mp h
      exact .down hname (ih hnames (depth + 1))

theorem Stays.climb_append {depth : Nat} {names : List Text} (h : Stays depth names)
    (inner above : List Text) (hdepth : inner.length = depth) :
    climb (inner ++ above) names = above.reverse ++ climb inner names := by
  -- `inner` holds the names from the directory on, so a step back takes one of these.
  induction h generalizing inner with
  | done depth => simp [climb]
  | down hname h ih =>
      rw [climb, climb, if_neg hname, if_neg hname]
      exact ih (_ :: inner) (congrArg (· + 1) hdepth)
  | back h ih =>
      obtain ⟨name, inner, rfl⟩ := List.exists_cons_of_length_eq_add_one hdepth
      rw [climb, climb, if_pos rfl, if_pos rfl]
      exact ih inner (Nat.succ.inj hdepth)

/-- The path of a way from a directory. -/
def under (root way : Text) : Text := Text.dropTrailing (· == '/') root ++ '/' :: way

theorem isEmpty_under (root way : Text) : (under root way).isEmpty = false := by simp [under]

theorem exists_slashes (root : Text) :
    ∃ n, root = Text.dropTrailing (· == '/') root ++ List.replicate n '/' := by
  have hslashes : ∀ c ∈ root.rtakeWhile (· == '/'), c = '/' := fun c hc => by
    simpa using List.mem_rtakeWhile_imp hc
  refine ⟨(root.rtakeWhile (· == '/')).length, ?_⟩
  rw [← List.eq_replicate_of_mem hslashes]
  exact List.rdropWhile_append_rtakeWhile.symm

theorem parts_slashes (n : Nat) : parts (List.replicate n '/') = [] := by
  induction n with
  | zero => rfl
  | succ n ih => rw [List.replicate_succ, parts_slash, ih]

theorem parts_dropTrailing (root : Text) :
    parts (Text.dropTrailing (· == '/') root) = parts root := by
  obtain ⟨n, hroot⟩ := exists_slashes root
  conv_rhs => rw [hroot]
  cases n with
  | zero => simp
  | succ n => rw [List.replicate_succ, parts_append_slash, parts_slashes, List.append_nil]

theorem parts_under (root way : Text) : parts (under root way) = parts root ++ parts way := by
  rw [under, parts_append_slash, parts_dropTrailing]

theorem names_append {way : Text} (h : Stays 0 (parts way)) {path root : Text}
    (hparts : parts path = parts root ++ parts way) : names path = names root ++ names way := by
  rw [names, hparts, climb_append]
  have hstays := h.climb_append [] (climb [] (parts root)).reverse rfl
  rwa [List.nil_append, List.reverse_reverse] at hstays

theorem isAbsolute_cons (c : Char) (t : Text) : isAbsolute (c :: t) = true ↔ c = '/' := by
  constructor
  · intro h
    by_contra hc
    simp [isAbsolute, lead, hc] at h
  · rintro rfl
    unfold isAbsolute lead
    split <;> simp_all

theorem isAbsolute_under {root : Text} (hroot : root ≠ []) (way : Text) :
    isAbsolute (under root way) = isAbsolute root := by
  obtain ⟨n, hslashes⟩ := exists_slashes root
  rw [Bool.eq_iff_iff, under]
  generalize Text.dropTrailing (· == '/') root = front at hslashes ⊢
  subst hslashes
  cases front with
  | nil =>
      cases n with
      | zero => exact absurd rfl hroot
      | succ n => simp [isAbsolute_cons, List.replicate_succ]
  | cons c front => simp [isAbsolute_cons]

theorem parts_join_of_relative {path : Text} (h : isAbsolute path = false) (directory : Text) :
    parts (join directory path) = parts directory ++ parts path := by
  rw [join, if_neg (by simp [h])]
  split
  · next hslash =>
      obtain ⟨front, rfl⟩ := List.getLast?_eq_some_iff.mp hslash
      have hfront : parts (front ++ ['/']) = parts front := by
        rw [parts_append_slash]
        exact List.append_nil _
      rw [hfront, List.append_assoc, List.singleton_append, parts_append_slash]
  · rw [List.append_assoc, List.singleton_append, parts_append_slash]

theorem namesFrom_under {way : Text} (h : Stays 0 (parts way)) {root : Text} (hroot : root ≠ [])
    (directory : Text) :
    namesFrom directory (under root way) = namesFrom directory root ++ names way := by
  have hunder := isAbsolute_under hroot way
  cases habsolute : isAbsolute root with
  | true =>
      rw [namesFrom_of_isAbsolute (hunder.trans habsolute), namesFrom_of_isAbsolute habsolute,
        names_append h (parts_under root way)]
  | false =>
      refine names_append h ?_
      rw [parts_join_of_relative (hunder.trans habsolute), parts_join_of_relative habsolute,
        parts_under, List.append_assoc]

theorem afterCommon_append (base down : List Text) :
    afterCommon (base ++ down) base = (down, []) := by
  induction base with
  | nil => cases down <;> rfl
  | cons name base ih => rwa [List.cons_append, afterCommon, if_pos rfl]

theorem way_under {way : Text} (h : Stays 0 (parts way)) {root : Text} (hroot : root ≠ [])
    (directory : Text) : RelativePaths.way directory (under root way) root = names way := by
  rw [RelativePaths.way, namesFrom_under h hroot, afterCommon_append]
  rfl

/-- The way to a path below the root does not depend on where the root is. -/
theorem relative_under {way : Text} (h : Stays 0 (parts way)) {root root' : Text}
    (hroot : root ≠ []) (hroot' : root' ≠ []) (directory directory' : Text) :
    relative directory (under root way) root = relative directory' (under root' way) root' := by
  rw [relative_eq, relative_eq, way_under h hroot, way_under h hroot']

theorem isPrefix_append_slash_iff {part front back : Text} (h : '/' ∉ part) :
    part <+: front ++ '/' :: back ↔ part <+: front := by
  induction front generalizing part with
  | nil =>
      cases part with
      | nil => simp
      | cons c part =>
          have hc : c ≠ '/' := fun hc => h (hc ▸ List.mem_cons_self)
          simp [List.cons_prefix_cons, hc]
  | cons d front ih =>
      cases part with
      | nil => simp
      | cons c part =>
          rw [List.cons_append, List.cons_prefix_cons, List.cons_prefix_cons,
            ih fun hpart => h (List.mem_cons_of_mem c hpart)]

theorem isInfix_append_slash_iff {part front back : Text} (h : '/' ∉ part) :
    part <:+: front ++ '/' :: back ↔ part <:+: front ∨ part <:+: back := by
  induction front with
  | nil =>
      rw [List.nil_append, List.infix_cons_iff, ← List.nil_append ('/' :: back),
        isPrefix_append_slash_iff h, List.prefix_nil, List.infix_nil]
  | cons c front ih =>
      rw [List.cons_append, List.infix_cons_iff, List.infix_cons_iff, ih, ← List.cons_append,
        isPrefix_append_slash_iff h, or_assoc]

theorem isSuffix_append_slash_iff {part front back : Text} (h : '/' ∉ part) :
    part <:+ front ++ '/' :: back ↔ part <:+ back := by
  constructor
  · intro hpart
    rcases List.suffix_or_suffix_of_suffix hpart (List.suffix_append front ('/' :: back)) with
      hshort | hlong
    · rcases List.suffix_cons_iff.mp hshort with rfl | hback
      · simp at h
      · exact hback
    · exact absurd (hlong.subset List.mem_cons_self) h
  · intro hback
    exact hback.trans (List.suffix_append_of_suffix (List.suffix_cons _ _))

/-- The path has a part that marks the files of libraries. -/
def Marked (path : Text) : Prop := ∃ marker ∈ Program.libraryMarkers, marker <:+: path

instance (path : Text) : Decidable (Marked path) :=
  inferInstanceAs (Decidable (∃ marker ∈ Program.libraryMarkers, marker <:+: path))

theorem marker_cases : ∀ marker ∈ Program.libraryMarkers, marker ≠ [] ∧ '/' ∉ marker := by
  decide +kernel

theorem marked_append_slash_iff {front back : Text} :
    Marked (front ++ '/' :: back) ↔ Marked front ∨ Marked back := by
  simp only [Marked, ← exists_or]
  refine exists_congr fun marker => ?_
  rw [← and_or_left]
  exact and_congr_right fun hmarker => isInfix_append_slash_iff (marker_cases marker hmarker).2

theorem not_marked_slashes (n : Nat) : ¬ Marked (List.replicate n '/') := by
  rintro ⟨marker, hmarker, hfound⟩
  obtain ⟨hne, hslash⟩ := marker_cases marker hmarker
  obtain ⟨c, hc⟩ := List.exists_mem_of_ne_nil marker hne
  obtain rfl := List.eq_of_mem_replicate (hfound.subset hc)
  exact hslash hc

theorem marked_dropTrailing_iff {root : Text} :
    Marked (Text.dropTrailing (· == '/') root) ↔ Marked root := by
  obtain ⟨n, hroot⟩ := exists_slashes root
  conv_rhs => rw [hroot]
  cases n with
  | zero => simp
  | succ n =>
      rw [List.replicate_succ, marked_append_slash_iff]
      exact (or_iff_left (not_marked_slashes n)).symm

theorem marked_under_iff {root way : Text} :
    Marked (under root way) ↔ Marked root ∨ Marked way := by
  rw [under, marked_append_slash_iff, marked_dropTrailing_iff]

/-- Whether a path below the root is a source of the project is told by the way to it, where the
path of the root has none of the parts that mark libraries. Where it has one, there are no
sources. -/
theorem isOwnSource_under_iff {root way : Text} : Program.isOwnSource root (under root way) = true ↔
    ¬ Marked root ∧ ¬ Marked way ∧ ¬ ['.', 'p', 'y', 'i'] <:+ way := by
  have hbelow :
      List.isPrefixOf (Text.dropTrailing (· == '/') root ++ ['/']) (under root way) = true :=
    List.isPrefixOf_iff_prefix.mpr ⟨way, by simp [under]⟩
  have hmarked :
      (Program.libraryMarkers.any fun marker => Text.has marker (under root way)) = true ↔
      Marked root ∨ Marked way := by
    rw [← marked_under_iff, List.any_eq_true]
    simp only [has_iff_isInfix, Marked]
  have hsource : List.isSuffixOf ['.', 'p', 'y', 'i'] (under root way) = true ↔
      ['.', 'p', 'y', 'i'] <:+ way := by
    rw [List.isSuffixOf_iff_suffix, under, isSuffix_append_slash_iff (by decide)]
  rw [Program.isOwnSource, hbelow, Bool.and_true, Bool.and_eq_true, Bool.not_eq_true',
    Bool.not_eq_true', ← Bool.not_eq_true, ← Bool.not_eq_true, hmarked, hsource, not_or, and_assoc]

/-- The path leads from the root to a file without leaving the root on the way. -/
def Lies (root file : Text) : Prop := ∃ way, file = under root way ∧ Stays 0 (parts way)

theorem lies_of_names {root path : Text} (hroot : Rooted root) (hpath : Rooted path)
    (hbelow : names root <+: names path) (hproper : names path ≠ names root) : Lies root path := by
  obtain ⟨rest, hnames⟩ := hbelow
  have hne : rest ≠ [] := by
    rintro rfl
    exact hproper (by rw [← hnames, List.append_nil])
  have hplain : ∀ name ∈ rest, Plain name := fun name hname =>
    names_plain path name (hnames ▸ List.mem_append_right _ hname)
  refine ⟨glue rest, ?_, ?_⟩
  · obtain ⟨name, rest, rfl⟩ := List.exists_cons_of_ne_nil hne
    rw [under, ← List.singleton_append, ← List.append_assoc, dropTrailing_root hroot,
      hpath.eq_absolute, ← hnames]
    split
    · next hnone => rw [hnone]; rfl
    · next hsome =>
        rw [absolute, glue_append_cons hsome]
        simp
  · rw [parts_glue hplain]
    exact stays_of_plain (fun name hname => (hplain name hname).2.2.2) 0

/-- The path of a file below one root after the project has been moved to another. -/
def moved (old new file : Text) : Text := under new (file.drop (under old []).length)

def movedDiagnostic (old new : Text) (d : Diagnostic) : Diagnostic :=
  { d with file := d.file.map (moved old new) }

def movedProgram (old new : Text) (program : Program) : Program where
  diagnostics := program.diagnostics.map (movedDiagnostic old new)
  files := program.files.map (moved old new)

@[simp]
theorem moved_under (old new way : Text) : moved old new (under old way) = under new way := by
  simp [moved, under]

section

variable {old new : Text} {d : Diagnostic} {diagnostics : List Diagnostic}
  {file : Text} {files : List Text}

theorem ofDiagnostic?_moved (hold : old ≠ []) (hnew : new ≠ [])
    (h : ∀ file, d.file = some file → Lies old file) (directory directory' : Text) :
    Record.ofDiagnostic? directory' new (movedDiagnostic old new d) =
      Record.ofDiagnostic? directory old d := by
  cases hfile : d.file with
  | none => simp only [Record.ofDiagnostic?, movedDiagnostic, hfile, Option.map_none]
  | some file =>
      obtain ⟨way, rfl, hway⟩ := h file hfile
      have hlocated : Record.ofLocated directory' new (under new way) (movedDiagnostic old new d) =
          Record.ofLocated directory old (under old way) d := by
        simp only [Record.ofLocated, isEmpty_under,
          relative_under hway hnew hold directory' directory]
        rfl
      have hmoved : (movedDiagnostic old new d).file = some (under new way) := by
        simp [movedDiagnostic, hfile]
      have hcategory : (movedDiagnostic old new d).category = d.category := rfl
      rw [Record.ofDiagnostic?, Record.ofDiagnostic?, hmoved, hfile, hcategory]
      cases d.category <;> simp only [hlocated]

theorem ofDiagnostics_moved (hold : old ≠ []) (hnew : new ≠ [])
    (h : ∀ d ∈ diagnostics, ∀ file, d.file = some file → Lies old file)
    (directory directory' : Text) :
    Record.ofDiagnostics directory' new (diagnostics.map (movedDiagnostic old new)) =
      Record.ofDiagnostics directory old diagnostics := by
  have hrecords : (diagnostics.map (movedDiagnostic old new)).mapM
        (Record.ofDiagnostic? directory' new) =
      diagnostics.mapM (Record.ofDiagnostic? directory old) := by
    induction diagnostics with
    | nil => rfl
    | cons d diagnostics ih =>
        obtain ⟨hd, hdiagnostics⟩ := List.forall_mem_cons.mp h
        rw [List.map_cons, List.mapM_cons, List.mapM_cons,
          ofDiagnostic?_moved hold hnew hd directory directory', ih hdiagnostics]
  rw [Record.ofDiagnostics, Record.ofDiagnostics, hrecords]

theorem isOwnSource_moved (h : Lies old file) {new : Text} (hmarked : Marked old ↔ Marked new) :
    Program.isOwnSource new (moved old new file) = Program.isOwnSource old file := by
  obtain ⟨way, rfl, -⟩ := h
  rw [moved_under, Bool.eq_iff_iff, isOwnSource_under_iff, isOwnSource_under_iff, hmarked]

theorem filter_eq_nil_of_marked (h : ∀ file ∈ files, Lies old file) (hmarked : Marked old) :
    files.filter (Program.isOwnSource old) = [] := by
  rw [List.filter_eq_nil_iff]
  intro file hfile
  obtain ⟨way, rfl, -⟩ := h file hfile
  rw [isOwnSource_under_iff]
  exact fun hown => hown.1 hmarked

theorem lies_moved (h : Lies old file) (new : Text) : Lies new (moved old new file) := by
  obtain ⟨way, rfl, hway⟩ := h
  exact ⟨way, moved_under old new way, hway⟩

/-- The parts that mark libraries make no difference between two roots: both have some or neither
has, or there are no sources at either. -/
def Undisturbed (old new : Text) (files : List Text) : Prop :=
  (Marked old ↔ Marked new) ∨ ∀ file ∈ files,
    Program.isOwnSource old file = false ∧ Program.isOwnSource new (moved old new file) = false

theorem filter_moved_iff (h : ∀ file ∈ files, Lies old file) (new : Text) :
    (files.map (moved old new)).filter (Program.isOwnSource new) =
        (files.filter (Program.isOwnSource old)).map (moved old new) ↔
      Undisturbed old new files := by
  constructor
  · intro hsame
    by_cases hmarked : Marked old ↔ Marked new
    · exact .inl hmarked
    have hnone : files.filter (Program.isOwnSource old) = [] ∧
        (files.map (moved old new)).filter (Program.isOwnSource new) = [] := by
      by_cases hold : Marked old
      · have hnil := filter_eq_nil_of_marked h hold
        exact ⟨hnil, by rw [hsame, hnil, List.map_nil]⟩
      · have hnew : Marked new := by_contra fun hnew => hmarked (iff_of_false hold hnew)
        have hnil := filter_eq_nil_of_marked
          (List.forall_mem_map.mpr fun file hfile => lies_moved (h file hfile) new) hnew
        exact ⟨List.map_eq_nil_iff.mp (hsame.symm.trans hnil), hnil⟩
    refine .inr fun file hfile => ⟨?_, ?_⟩
    · simpa using List.filter_eq_nil_iff.mp hnone.1 file hfile
    · simpa using List.filter_eq_nil_iff.mp hnone.2 _ (List.mem_map_of_mem hfile)
  · rw [List.filter_map]
    rintro (hmarked | hnone)
    · exact congrArg _ (List.filter_congr fun file hfile =>
        isOwnSource_moved (h file hfile) hmarked)
    · exact congrArg _ (List.filter_congr fun file hfile =>
        (hnone file hfile).2.trans (hnone file hfile).1.symm)

end

variable {σ τ : Type}

theorem said_checkAll {p : Project σ} (hclock : Clocked p.tools) {disk : Disk} {s : Session σ}
    {program : Program} (h : Agrees
      (outcome (p.program disk) { s with world := (p.tools.tick s.world).2 }).1 (.ok program)) :
    said (outcome (p.checkAll disk) s).1 =
      (Record.ofDiagnostics p.directory p.root program.diagnostics).map fun errors =>
        saying p (errors, (program.files.filter (Program.isOwnSource p.root)).length) := by
  have hasked : asked p disk .whole s = some { s with world := (p.tools.tick s.world).2 } := rfl
  have hsaid := said_of_agrees hclock hasked h
  refine hsaid.trans ?_
  simp only [verdict, refreshed, bind, Except.bind]
  cases Record.ofDiagnostics p.directory p.root program.diagnostics <;> rfl

/-- Moving a project to another root leaves its records as they are. Its sources are the same, and
so is the answer to a check of the whole project, unless a part that marks libraries comes or goes
with the path of the root. -/
theorem checkAll_moved {old new : Text} (hold : old ≠ []) (hnew : new ≠ []) {program : Program}
    (hplaced : ∀ d ∈ program.diagnostics, ∀ file, d.file = some file → Lies old file)
    (hfiles : ∀ file ∈ program.files, Lies old file) :
    (∀ directory directory', Record.ofDiagnostics directory' new
        (movedProgram old new program).diagnostics =
      Record.ofDiagnostics directory old program.diagnostics) ∧
    ((movedProgram old new program).files.filter (Program.isOwnSource new) =
        (program.files.filter (Program.isOwnSource old)).map (moved old new) ↔
      Undisturbed old new program.files) ∧
    ∀ (p : Project σ) (p' : Project τ) (disk disk' : Disk) (s : Session σ) (s' : Session τ),
      Clocked p.tools → Clocked p'.tools → p.root = old → p'.root = new →
      p.collectMetrics = p'.collectMetrics →
      Agrees (outcome (p.program disk) { s with world := (p.tools.tick s.world).2 }).1
        (.ok program) →
      Agrees (outcome (p'.program disk') { s' with world := (p'.tools.tick s'.world).2 }).1
        (.ok (movedProgram old new program)) →
      (said (outcome (p'.checkAll disk') s').1).map Prod.fst =
        (said (outcome (p.checkAll disk) s).1).map Prod.fst ∧
      (Undisturbed old new program.files →
        said (outcome (p'.checkAll disk') s').1 = said (outcome (p.checkAll disk) s).1) := by
  have hrecords := ofDiagnostics_moved hold hnew hplaced
  have hsources := filter_moved_iff hfiles new
  refine ⟨hrecords, hsources, ?_⟩
  rintro p p' disk disk' s s' hclock hclock' rfl rfl hfigures hprogram hprogram'
  rw [said_checkAll hclock hprogram, said_checkAll hclock' hprogram', movedProgram,
    hrecords p.directory]
  constructor
  · cases Record.ofDiagnostics p.directory p.root program.diagnostics <;> rfl
  · intro hundisturbed
    dsimp only
    rw [hsources.mpr hundisturbed, List.length_map]
    simp only [saying, hfigures]

/-- A project at a root, with two files and an error in one of them. -/
def checkedOut (root : Text) : Project Unit where
  config := { root, compilerConfig := root, settings := {} }
  options := {}
  noCache := false
  collectMetrics := true
  tools :=
    { directory := root
      discover := fun _ _ _ w => (.ok [], w)
      build := fun _ w => (.finished [under root "a.py:1: error: x".toList]
        [under root "a.py".toList, under root "b/c.py".toList], w)
      tick := fun w => (.whole 0, w)
      versionControl := fun _ _ w => (.missing, w) }

def programAt (root : Text) : Program where
  diagnostics := [{ file := some (under root "a.py".toList), line := 0, column := 0
                    code := Diagnostic.defaultCode, chain := [['x']] }]
  files := [under root "a.py".toList, under root "b/c.py".toList]

theorem lies_programAt : ∀ file ∈ (programAt "/p".toList).files, Lies "/p".toList file := by
  have hroot : Rooted "/p".toList := ⟨by decide +kernel, rfl⟩
  have hbelow : ∀ file ∈ (programAt "/p".toList).files, Path.clean file = file ∧
      lead file = ['/'] ∧ names "/p".toList <+: names file ∧ names file ≠ names "/p".toList := by
    decide +kernel
  intro file hfile
  obtain ⟨hclean, hlead, hwithin, hproper⟩ := hbelow file hfile
  exact lies_of_names hroot ⟨hclean, hlead⟩ hwithin hproper

theorem agrees_of_map_eq {answer : Except Failure Build} {program : Program}
    (h : answer.map (·.program) = .ok program) : Agrees answer (.ok program) := by
  obtain ⟨b, rfl, rfl⟩ := exists_of_map_eq_ok h
  exact ⟨rfl, .refl _⟩

theorem checkAll_moved_checkedOut :
    said (outcome ((checkedOut "/q/r".toList).checkAll ⟨[]⟩) { world := () }).1 =
        said (outcome ((checkedOut "/p".toList).checkAll ⟨[]⟩) { world := () }).1 ∧
      (said (outcome ((checkedOut "/p".toList).checkAll ⟨[]⟩) { world := () }).1).map Prod.snd =
        .ok (some 2) := by
  have hplaced : ∀ d ∈ (programAt "/p".toList).diagnostics, ∀ file, d.file = some file →
      Lies "/p".toList file := by
    intro d hd file hfile
    obtain rfl := List.mem_singleton.mp hd
    obtain rfl := Option.some.inj hfile
    exact lies_programAt _ List.mem_cons_self
  have hclock : ∀ root, Clocked (checkedOut root).tools := fun root w w' => ⟨0, rfl⟩
  have hmarks : Undisturbed "/p".toList "/q/r".toList (programAt "/p".toList).files :=
    .inl (iff_of_false (by decide +kernel) (by decide +kernel))
  have hnew : "/q/r".toList ≠ [] := by decide
  obtain ⟨-, -, hsaid⟩ := checkAll_moved (by decide) hnew hplaced lies_programAt
  obtain ⟨-, hsame⟩ := hsaid (checkedOut "/p".toList) (checkedOut "/q/r".toList) ⟨[]⟩ ⟨[]⟩
    { world := () } { world := () } (hclock _) (hclock _) rfl rfl rfl
    (agrees_of_map_eq (by decide +kernel)) (agrees_of_map_eq (by decide +kernel))
  exact ⟨hsame hmarks, by decide +kernel⟩

/-- The path of the second root looks like that of a library. -/
theorem not_filter_moved_typeshed :
    Rooted "/p".toList ∧ Rooted "/typeshed".toList ∧
      (∀ file ∈ (programAt "/p".toList).files, Lies "/p".toList file) ∧
      (programAt "/p".toList).files.map (moved "/p".toList "/typeshed".toList) =
        ["/typeshed/a.py".toList, "/typeshed/b/c.py".toList] ∧
      (programAt "/p".toList).files.filter (Program.isOwnSource "/p".toList) =
        ["/p/a.py".toList, "/p/b/c.py".toList] ∧
      ["/typeshed/a.py".toList, "/typeshed/b/c.py".toList].filter
        (Program.isOwnSource "/typeshed".toList) = [] ∧
      (said (outcome ((checkedOut "/p".toList).checkAll ⟨[]⟩) { world := () }).1).map Prod.snd =
        .ok (some 2) ∧
      (said (outcome ((checkedOut "/typeshed".toList).checkAll ⟨[]⟩) { world := () }).1).map
        Prod.snd = .ok (some 0) := by
  refine ⟨⟨?_, rfl⟩, ⟨?_, rfl⟩, lies_programAt, ?_, ?_, ?_, ?_, ?_⟩ <;> decide +kernel

end Recheck.Proofs.MovedProjects
