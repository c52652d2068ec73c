import Recheck.Change.Porcelain
import Recheck.Cli.Watch
import Recheck.Proofs.NamePatterns

/-!
The names that a watcher looks at, and the names that end in an extension. An extension with a star
in front is a pattern, so the two are the same where no extension has a special character, and they
are not where the one extension has one.
-/

namespace Recheck.Proofs.WatchedNames

open Recheck.Glob
open Recheck.Proofs.NamePatterns

section

variable {α β : Type}

theorem exists_of_seq_eq_valid {f : Checked (α → β)} {x : Checked α} {b : β}
    (h : f <*> x = .valid b) : ∃ g a, f = .valid g ∧ x = .valid a ∧ g a = b := by
  change Checked.apply f x = .valid b at h
  cases f <;> cases x <;> simp [Checked.apply] at h
  exact ⟨_, _, rfl, rfl, h⟩

theorem exists_of_map_eq_valid {f : α → β} {x : Checked α} {b : β} (h : f <$> x = .valid b) :
    ∃ a, x = .valid a ∧ f a = b := by
  obtain ⟨g, a, hg, hx, rfl⟩ := exists_of_seq_eq_valid (f := .valid f) h
  obtain rfl := Checked.valid.inj hg
  exact ⟨a, hx, rfl⟩

theorem eq_valid_of_inside {key : Text} {x : Checked α} {a : α} (h : x.inside key = .valid a) :
    x = .valid a := by
  cases x with
  | valid a' => exact h
  | problems list => cases h

end

theorem ne_nil_of_readExtensions {d : Datum} {extensions : List Text}
    (h : Settings.readExtensions d = .valid extensions) : extensions ≠ [] := by
  unfold Settings.readExtensions at h
  split at h
  · split at h
    · obtain rfl := Checked.valid.inj h
      exact List.cons_ne_nil _ _
    · cases h
    · cases h
  · cases h

theorem readTexts_texts (index : Nat) (texts : List Text) :
    Settings.readTexts index (texts.map .text) = ([], texts) := by
  induction texts generalizing index with
  | nil => rfl
  | cons t texts ih =>
      rw [List.map_cons, Settings.readTexts, ih]
      rfl

theorem extensions_ne_nil {d : Datum} {s : Settings} (h : Settings.read d = .valid s) :
    s.extensions ≠ [] := by
  unfold Settings.read at h
  split at h
  · cases h
  · next fields _ =>
      obtain ⟨_, _, hall, -, rfl⟩ := exists_of_seq_eq_valid h
      obtain ⟨_, extensions, hpoll, hextensions, rfl⟩ := exists_of_seq_eq_valid hall
      obtain ⟨_, _, hdebounce, -, rfl⟩ := exists_of_seq_eq_valid hpoll
      obtain ⟨_, _, hcache, -, rfl⟩ := exists_of_seq_eq_valid hdebounce
      obtain ⟨_, _, hmetrics, -, rfl⟩ := exists_of_seq_eq_valid hcache
      obtain ⟨_, _, hquiet, -, rfl⟩ := exists_of_seq_eq_valid hmetrics
      obtain ⟨_, _, houtput, -, rfl⟩ := exists_of_seq_eq_valid hquiet
      obtain ⟨_, -, rfl⟩ := exists_of_map_eq_valid houtput
      change extensions ≠ []
      unfold optionalField at hextensions
      split at hextensions
      · exact ne_nil_of_readExtensions (eq_valid_of_inside hextensions)
      · obtain rfl := Checked.valid.inj hextensions
        exact List.cons_ne_nil _ _

theorem exists_read_iff {extensions : List Text} :
    (∃ d s, Settings.read d = .valid s ∧ s.extensions = extensions) ↔ extensions ≠ [] := by
  constructor
  · rintro ⟨d, s, hs, rfl⟩
    exact extensions_ne_nil hs
  · intro h
    obtain ⟨t, texts, rfl⟩ := List.exists_cons_of_ne_nil h
    let fields : List (Text × Datum) := [("extensions", .list ((t :: texts).map .text))]
    have hfield :
        optionalField "extensions" Settings.readExtensions ({} : Settings).extensions fields =
        .valid (t :: texts) := by
      change (Settings.readExtensions (.list ((t :: texts).map .text))).inside _ = _
      rw [Settings.readExtensions, readTexts_texts]
      rfl
    refine ⟨.table fields, { extensions := t :: texts }, ?_, rfl⟩
    simp only [Settings.read, Datum.asTable]
    rw [hfield]
    rfl

/-- The watcher looks at the same names as those that end in an extension. -/
def Agree (s : Settings) : Prop :=
  ∀ names, Change.withExtension s.extensions names =
    names.filter (Watcher.isWatched (Watcher.effectivePatterns (Cli.watchPatterns s)))

/-- The name ends in an extension. -/
def Kept (s : Settings) (name : Text) : Prop := ∃ extension ∈ s.extensions, extension <:+ name

/-- The name ends in a text that an extension stands for. -/
def Watched (s : Settings) (name : Text) : Prop :=
  ∃ extension ∈ s.extensions, ∃ back, back <:+ name ∧ StandsFor extension back

theorem isWatched_iff {s : Settings} (h : s.extensions ≠ []) {name : Text} :
    Watcher.isWatched (Watcher.effectivePatterns (Cli.watchPatterns s)) name = true ↔
      Watched s name := by
  have hpatterns : Watcher.effectivePatterns (Cli.watchPatterns s) = Cli.watchPatterns s := by
    rw [Watcher.effectivePatterns, if_neg]
    simpa [Cli.watchPatterns] using h
  rw [hpatterns, Watcher.isWatched, Cli.watchPatterns, List.any_map, List.any_eq_true]
  exact exists_congr fun extension => and_congr_right fun _ => matchesName_star_iff

theorem agree_iff_forall {s : Settings} (h : s.extensions ≠ []) :
    Agree s ↔ ∀ name, Watched s name ↔ Kept s name := by
  have hkept : ∀ name, (s.extensions.any fun extension => extension.isSuffixOf name) = true ↔
      Kept s name := fun name => by
    rw [List.any_eq_true]
    simp only [List.isSuffixOf_iff_suffix, Kept]
  constructor
  · intro hagree name
    rw [← isWatched_iff h, ← hkept]
    have hname := congrArg (name ∈ ·) (hagree [name])
    rw [eq_iff_iff, Change.withExtension, List.mem_filter, List.mem_filter] at hname
    simpa using hname.symm
  · intro hiff names
    refine List.filter_congr fun name _ => ?_
    rw [Bool.eq_iff_iff, hkept, isWatched_iff h, hiff]

theorem Kept.append {s : Settings} {name : Text} (h : Kept s name) (front : Text) :
    Kept s (front ++ name) := by
  obtain ⟨extension, hmem, hsuffix⟩ := h
  exact ⟨extension, hmem, hsuffix.trans (List.suffix_append front name)⟩

theorem Watched.append {s : Settings} {name : Text} (h : Watched s name) (front : Text) :
    Watched s (front ++ name) := by
  obtain ⟨extension, hmem, back, hsuffix, hback⟩ := h
  exact ⟨extension, hmem, back, hsuffix.trans (List.suffix_append front name), hback⟩

theorem forall_watched_iff_kept {s : Settings} :
    (∀ name, Watched s name ↔ Kept s name) ↔ ∀ extension ∈ s.extensions, Special extension →
      Watched s extension ∧ ∀ t, StandsFor extension t → Kept s t := by
  constructor
  · intro h extension hmem _
    exact ⟨(h extension).mpr ⟨extension, hmem, List.suffix_rfl⟩,
      fun t ht => (h t).mp ⟨extension, hmem, t, List.suffix_rfl, ht⟩⟩
  · intro h name
    constructor
    · rintro ⟨extension, hmem, back, ⟨front, rfl⟩, hback⟩
      refine Kept.append ?_ front
      by_cases hspecial : Special extension
      · exact (h extension hmem hspecial).2 back hback
      · rw [(standsFor_iff_of_not_special hspecial).mp hback]
        exact ⟨extension, hmem, List.suffix_rfl⟩
    · rintro ⟨extension, hmem, ⟨front, rfl⟩⟩
      refine Watched.append ?_ front
      by_cases hspecial : Special extension
      · exact (h extension hmem hspecial).1
      · exact ⟨extension, hmem, extension, List.suffix_rfl,
          (standsFor_iff_of_not_special hspecial).mpr rfl⟩

theorem not_agree_of_special {s : Settings} {extension : Text} (hs : s.extensions = [extension])
    (h : Special extension) : ¬ Agree s := by
  intro hagree
  obtain ⟨name, hname⟩ := exists_differs_of_special h
  refine hname ?_
  have hiff := (agree_iff_forall (by simp [hs])).mp hagree name
  rw [matchesName_star_iff]
  simpa [Watched, Kept, hs] using hiff

/-- Some settings have the extensions exactly if there are any. The names that are watched under
them are those that are kept exactly if each extension with a special character is itself watched,
and stands for names only that are kept. So they are the same where no extension has a special
character, and they are not where there is one extension and it has one. -/
theorem agree_iff (extensions : List Text) :
    ((∃ d s, Settings.read d = .valid s ∧ s.extensions = extensions) ↔ extensions ≠ []) ∧
    ∀ d s, Settings.read d = .valid s → s.extensions = extensions →
      (Agree s ↔ ∀ extension ∈ extensions, Special extension →
        Watched s extension ∧ ∀ t, StandsFor extension t → Kept s t) ∧
      ((∀ extension ∈ extensions, ¬ Special extension) → Agree s) ∧
      ∀ extension, extensions = [extension] → (Agree s ↔ ¬ Special extension) := by
  refine ⟨exists_read_iff, ?_⟩
  rintro d s hs rfl
  have hagree : Agree s ↔ ∀ extension ∈ s.extensions, Special extension →
      Watched s extension ∧ ∀ t, StandsFor extension t → Kept s t :=
    (agree_iff_forall (extensions_ne_nil hs)).trans forall_watched_iff_kept
  have hplain : (∀ extension ∈ s.extensions, ¬ Special extension) → Agree s := fun h =>
    hagree.mpr fun extension hmem hspecial => absurd hspecial (h extension hmem)
  refine ⟨hagree, hplain, fun extension hone => ⟨fun h hspecial => ?_, fun h => ?_⟩⟩
  · exact not_agree_of_special hone hspecial h
  · refine hplain fun other hother => ?_
    rw [hone, List.mem_singleton] at hother
    exact hother ▸ h

/-- The data of settings with some extensions. -/
def extensionsOnly (extensions : List String) : Datum :=
  .table [("extensions", .list (extensions.map fun e => .text e))]

theorem agree_iff_bracketed : ∃ s s',
    Settings.read (extensionsOnly [".py", ".p[y"]) = .valid s ∧ Agree s ∧
      Settings.read (extensionsOnly [".py[i]"]) = .valid s' ∧ ¬ Agree s' := by
  have hplain : ∀ extension ∈ [['.', 'p', 'y'], ['.', 'p', '[', 'y']], ¬ Special extension := by
    have hnil : ¬ Special [] := nofun
    simp [special_cons_iff, Closes, afterSign, hnil]
  have hspecial : Special ['.', 'p', 'y', '[', 'i', ']'] := by
    simp [special_cons_iff, Closes, afterSign]
  obtain ⟨-, hopen⟩ := agree_iff [['.', 'p', 'y'], ['.', 'p', '[', 'y']]
  obtain ⟨-, hclosed⟩ := agree_iff [['.', 'p', 'y', '[', 'i', ']']]
  refine ⟨_, _, rfl, (hopen (extensionsOnly [".py", ".p[y"]) _ rfl rfl).2.1 hplain, rfl,
    fun h => ?_⟩
  exact ((hclosed (extensionsOnly [".py[i]"]) _ rfl rfl).2.2 _ rfl).mp h hspecial

/-- The watcher looks at a file that no extension ends, and not at the one that it ends. -/
theorem not_agree_bracketed : ∃ s, Settings.read (extensionsOnly [".py[i]"]) = .valid s ∧
    Change.withExtension s.extensions ["a.pyi", "a.py[i]"] = ["a.py[i]".toList] ∧
    Watcher.isWatched (Cli.watchPatterns s) "a.pyi" = true ∧
    Watcher.isWatched (Cli.watchPatterns s) "a.py[i]" = false ∧ ¬ Agree s := by
  have hnames : Change.withExtension [".py[i]"] ["a.pyi", "a.py[i]"] = ["a.py[i]".toList] := by
    decide +kernel
  refine ⟨_, rfl, hnames, by decide +kernel, by decide +kernel, fun h => ?_⟩
  have hfiltered := h ["a.pyi", "a.py[i]"]
  revert hfiltered
  decide +kernel

end Recheck.Proofs.WatchedNames
