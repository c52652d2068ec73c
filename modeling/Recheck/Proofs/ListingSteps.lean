import Mathlib.Data.List.Induction
import Recheck.Proofs.LineParts

/-!
What one line adds to a listing. A line without a place is a message about the whole program; a
line that is cut at its first severity becomes a diagnostic with the parts that it is cut into,
unless it is a note that continues the last diagnostic. Only a number with too many digits keeps
the listing from being read.
-/

namespace Recheck.Proofs.ListingSteps

open Recheck.Diagnostic Listings MessageLine MessageLines LineParts

variable {directory : Text}

/-- A line without the line ends behind it. -/
def unended (raw : Text) : Text := Text.dropTrailing (fun c => c == '\r' || c == '\n') raw

/-- A line that is not blank. -/
def shown (raw : Text) : Bool := !Text.allBlank (unended raw)

theorem not_allBlank_of_shown {raw : Text} (h : shown raw = true) :
    ¬ Text.allBlank (unended raw) = true := by
  simpa [shown] using h

def digitsOf : Text → Text
  | '-' :: digits => digits
  | digits => digits

/-- The number that digits, with or without a minus sign, stand for. -/
def valueOf : Text → Int
  | '-' :: digits => -Text.decimalValue digits
  | digits => Text.decimalValue digits

/-- A number that is counted from one, counted from zero. A missing number is the first. -/
def ordinal (number : Option Text) : Int := number.elim 0 fun t => max (valueOf t - 1) 0

/-- The number has no more digits than can be read. -/
def Short (number : Option Text) : Prop :=
  ∀ t, number = some t → (digitsOf t).length ≤ Text.maxDigits

theorem index_of_short {number : Option Text} (h : Short number) :
    ∃ n : Nat, index number = .ok n ∧ (n : Int) = ordinal number := by
  unfold index
  split
  · exact ⟨0, rfl, rfl⟩
  · next digits =>
      have hshort : ¬ Text.maxDigits < digits.length := Nat.not_lt.mpr (h _ rfl)
      refine ⟨0, if_neg hshort, ?_⟩
      simp only [ordinal, valueOf, Option.elim_some]
      omega
  · next digits hplain =>
      have hdigits : digitsOf digits = digits := by
        unfold digitsOf
        split
        · next rest => exact absurd rfl (hplain rest)
        · rfl
      have hvalue : valueOf digits = Text.decimalValue digits := by
        unfold valueOf
        split
        · next rest => exact absurd rfl (hplain rest)
        · rfl
      have hshort : ¬ Text.maxDigits < digits.length := by
        have := h _ rfl
        rw [hdigits] at this
        exact Nat.not_lt.mpr this
      refine ⟨_, if_neg hshort, ?_⟩
      simp only [ordinal, hvalue, Option.elim_some]
      omega

theorem index_of_not_short {number : Option Text} (h : ¬ Short number) :
    ∃ count, index number = .error (.tooManyDigits count) := by
  unfold index
  split
  · exact absurd (fun t ht => by cases ht) h
  · next digits =>
      refine ⟨_, if_pos ?_⟩
      by_contra hshort
      refine h fun t ht => ?_
      obtain rfl := Option.some.inj ht
      exact Nat.not_lt.mp hshort
  · next digits hplain =>
      refine ⟨_, if_pos ?_⟩
      by_contra hshort
      refine h fun t ht => ?_
      obtain rfl := Option.some.inj ht
      unfold digitsOf
      split
      · next rest => exact absurd rfl (hplain rest)
      · exact Nat.not_lt.mp hshort

theorem ordinal_nonneg (number : Option Text) : 0 ≤ ordinal number := by
  cases number with
  | none => exact Int.le_refl 0
  | some t => exact Int.le_max_right ..

/-- The diagnostic of a line that is cut into parts. -/
def located (directory : Text) (parts : MessageLine) : Diagnostic :=
  { file := some (Path.normalize directory parts.file), line := ordinal parts.line
    column := ordinal parts.column, code := parts.code.getD defaultCode
    chain := [parts.message], category := parts.category
    syntactic := parts.code.getD defaultCode == syntaxCode }

theorem takesNote_iff {parts : MessageLine} (hnote : parts.category = .message) {n : Nat}
    (hn : (n : Int) = ordinal parts.line) (d : Diagnostic) :
    d.takesNote (Path.normalize directory parts.file) n = true ↔
      Continues d (located directory parts) := by
  have hline : d.line = Int.ofNat n ↔ d.line = (located directory parts).line := by
    rw [show (located directory parts).line = ordinal parts.line from rfl, ← hn]
    rfl
  simp only [takesNote, Bool.and_eq_true, decide_eq_true_eq, beq_iff_eq, Continues, hline,
    and_assoc]
  exact ⟨fun h => ⟨hnote, h⟩, fun h => h.2⟩

section Line

variable {raw : Text} {done : List Diagnostic}

theorem addLine_of_not_shown (h : shown raw = false) : addLine directory done raw = .ok done := by
  have hblank : Text.allBlank (unended raw) = true := by simpa [shown] using h
  rw [addLine]
  exact if_pos hblank

theorem addLine_of_none (hshown : shown raw = true) (hparse : parse? (unended raw) = none) :
    addLine directory done raw = .ok (unlocated (unended raw) :: done) := by
  have hblank := not_allBlank_of_shown hshown
  unfold unended at hparse hblank
  rw [addLine]
  simp only [if_neg hblank, hparse]
  rfl

variable {parts : MessageLine} (hshown : shown raw = true)
  (hparse : parse? (unended raw) = some parts)
include hshown hparse

theorem addLine_of_long_line (hline : ¬ Short parts.line) (done : List Diagnostic) :
    ∃ count, addLine directory done raw = .error (.tooManyDigits count) := by
  have hblank := not_allBlank_of_shown hshown
  obtain ⟨count, hcount⟩ := index_of_not_short hline
  refine ⟨count, ?_⟩
  unfold unended at hparse hblank
  rw [addLine]
  simp only [if_neg hblank, hparse, hcount]
  rfl

theorem addLine_of_continues (hline : Short parts.line) {previous : Diagnostic}
    {earlier : List Diagnostic} (hcontinues : Continues previous (located directory parts)) :
    addLine directory (previous :: earlier) raw =
      .ok (previous.attach parts.message :: earlier) := by
  have hblank := not_allBlank_of_shown hshown
  obtain ⟨n, hn, hordinal⟩ := index_of_short hline
  have hnote : parts.category = .message := hcontinues.1
  have htakes := (takesNote_iff hnote hordinal previous).mpr hcontinues
  unfold unended at hparse hblank
  rw [addLine]
  simp only [if_neg hblank, hparse, hn, hnote, bind, Except.bind, htakes, if_true]
  rfl

theorem addLine_of_not_continues (hline : Short parts.line)
    (halone : ∀ previous ∈ done.head?, ¬ Continues previous (located directory parts)) :
    addLine directory done raw =
      (index parts.column).map fun column => { located directory parts with column } :: done := by
  have hblank := not_allBlank_of_shown hshown
  obtain ⟨n, hn, hordinal⟩ := index_of_short hline
  have hplace : ordinal parts.line = Int.ofNat n := hordinal.symm
  have hfalse : parts.category = .message → ∀ previous ∈ done.head?,
      previous.takesNote (Path.normalize directory parts.file) n = false := by
    intro hnote previous hprevious
    rw [Bool.eq_false_iff, Ne, takesNote_iff hnote hordinal previous]
    exact halone previous hprevious
  unfold unended at hparse hblank
  rw [addLine]
  simp only [if_neg hblank, hparse, hn, bind, Except.bind, located, hplace]
  clear hparse
  obtain ⟨file, line, column, category, message, code⟩ := parts
  cases category with
  | error => rfl
  | warning => rfl
  | message =>
      cases done with
      | nil => rfl
      | cons previous earlier =>
          have hprevious := hfalse rfl previous rfl
          simp only [hprevious]
          rfl

theorem addLine_of_short (hline : Short parts.line) (hcolumn : Short parts.column)
    (halone : ∀ previous ∈ done.head?, ¬ Continues previous (located directory parts)) :
    addLine directory done raw = .ok (located directory parts :: done) := by
  obtain ⟨n, hn, hordinal⟩ := index_of_short hcolumn
  have hparts : { located directory parts with column := (n : Int) } = located directory parts := by
    rw [hordinal]
    rfl
  rw [addLine_of_not_continues hshown hparse hline halone, hn, Except.map, hparts]

theorem addLine_of_long (hlong : ¬ (Short parts.line ∧ Short parts.column))
    (halone : ∀ previous ∈ done.head?, ¬ Continues previous (located directory parts)) :
    ∃ count, addLine directory done raw = .error (.tooManyDigits count) := by
  by_cases hline : Short parts.line
  · obtain ⟨count, hcount⟩ := index_of_not_short fun hcolumn => hlong ⟨hline, hcolumn⟩
    refine ⟨count, ?_⟩
    rw [addLine_of_not_continues hshown hparse hline halone, hcount]
    rfl
  · exact addLine_of_long_line hshown hparse hline done

end Line

theorem foldlM_of_ofLines {lines : List Text} {ds : List Diagnostic}
    (h : ofLines directory lines = .ok ds) :
    lines.foldlM (addLine directory) [] = .ok ds.reverse := by
  unfold ofLines at h
  cases hfold : lines.foldlM (addLine directory) [] with
  | error failure => rw [hfold] at h; cases h
  | ok done =>
      rw [hfold] at h
      obtain rfl := Except.ok.inj h
      rw [List.reverse_reverse]

theorem ofLines_concat {lines : List Text} {ds : List Diagnostic}
    (h : ofLines directory lines = .ok ds)
    (raw : Text) :
    ofLines directory (lines ++ [raw]) = (addLine directory ds.reverse raw).map List.reverse := by
  rw [ofLines, List.foldlM_append, foldlM_of_ofLines h]
  change Except.map _ (List.foldlM (addLine directory) ds.reverse [raw]) = _
  rw [List.foldlM_cons]
  cases addLine directory ds.reverse raw <;> rfl

theorem ofLines_singleton (raw : Text) :
    ofLines directory [raw] = (addLine directory [] raw).map List.reverse := by
  have hnone : ofLines directory [] = .ok [] := rfl
  exact ofLines_concat hnone raw

/-- The diagnostic of a line that stands alone. -/
def Owns (directory raw : Text) (own : Diagnostic) : Prop :=
  (parse? (unended raw) = none ∧ own = unlocated (unended raw)) ∨
    ∃ parts, parse? (unended raw) = some parts ∧ Short parts.line ∧ Short parts.column ∧
      own = located directory parts

/-- A line that is not blank opens a diagnostic or is a note that continues the last one. -/
theorem addLine_cases_of_shown {done done' : List Diagnostic} {raw : Text}
    (hshown : shown raw = true) (h : addLine directory done raw = .ok done') :
    (∃ own, Owns directory raw own ∧ ofLines directory [raw] = .ok [own] ∧ done' = own :: done ∧
      ∀ previous ∈ done.head?, ¬ Continues previous own) ∨
    ∃ parts previous earlier, parse? (unended raw) = some parts ∧ done = previous :: earlier ∧
      Continues previous (located directory parts) ∧
      done' = previous.attach parts.message :: earlier := by
  rw [ofLines_singleton]
  cases hparse : parse? (unended raw) with
  | none =>
      rw [addLine_of_none hshown hparse] at h ⊢
      refine .inl ⟨_, .inl ⟨hparse, rfl⟩, rfl, (Except.ok.inj h).symm, ?_⟩
      rintro previous - ⟨hnote, -⟩
      cases hnote
  | some parts =>
      by_cases hcontinues : ∃ previous ∈ done.head?, Continues previous (located directory parts)
      · obtain ⟨previous, hprevious, hcontinues⟩ := hcontinues
        obtain ⟨earlier, rfl⟩ := List.head?_eq_some_iff.mp hprevious
        by_cases hline : Short parts.line
        · rw [addLine_of_continues hshown hparse hline hcontinues] at h
          exact .inr ⟨parts, previous, earlier, rfl, rfl, hcontinues, (Except.ok.inj h).symm⟩
        · obtain ⟨count, hcount⟩ := addLine_of_long_line hshown hparse hline (previous :: earlier)
          cases hcount.symm.trans h
      · have halone : ∀ previous ∈ done.head?, ¬ Continues previous (located directory parts) :=
          fun previous hprevious h => hcontinues ⟨previous, hprevious, h⟩
        by_cases hshort : Short parts.line ∧ Short parts.column
        · obtain ⟨hline, hcolumn⟩ := hshort
          rw [addLine_of_short hshown hparse hline hcolumn halone] at h
          rw [addLine_of_short hshown hparse hline hcolumn (by simp)]
          have howns : Owns directory raw (located directory parts) :=
            .inr ⟨parts, hparse, hline, hcolumn, rfl⟩
          exact .inl ⟨located directory parts, howns, rfl, (Except.ok.inj h).symm, halone⟩
        · obtain ⟨count, hcount⟩ := addLine_of_long hshown hparse hshort halone
          cases hcount.symm.trans h

theorem owns_of_ofLines {raw : Text} {own : Diagnostic} (h : ofLines directory [raw] = .ok [own]) :
    Owns directory raw own := by
  rw [ofLines_singleton] at h
  cases hadd : addLine directory [] raw with
  | error failure => rw [hadd] at h; cases h
  | ok done =>
      rw [hadd, Except.map] at h
      have hdone : done = [own] := List.reverse_eq_iff.mp (Except.ok.inj h)
      cases hshown : shown raw with
      | false =>
          rw [addLine_of_not_shown hshown, hdone] at hadd
          cases hadd
      | true =>
          rcases addLine_cases_of_shown hshown hadd with
            ⟨own', howns, -, heq, -⟩ | ⟨_, _, _, -, hnil, -⟩
          · obtain ⟨rfl, -⟩ := List.cons.inj (hdone.symm.trans heq)
            exact howns
          · cases hnil

/-- A line that is not blank has no place where it goes on after a line feed or has no severity
behind its first character, and else is cut at its first severity, with the shortest file before it
and the code at its end. In a listing, the line becomes a diagnostic with these parts, unless it is
a note that continues the last diagnostic; a position counts from zero, and none comes before it. -/
theorem ofLines_concat_of_shown (directory raw : Text) (hshown : shown raw = true) :
    (parse? (unended raw) = none ↔
      '\n' ∈ unended raw ∨ ∀ i category, ¬ MarkedAt (unended raw) i category) ∧
    (∀ parts, parse? (unended raw) = some parts ↔ ∃ i, CutAt (unended raw) i parts) ∧
    ∀ lines ds, ofLines directory lines = .ok ds →
      (parse? (unended raw) = none →
        ofLines directory (lines ++ [raw]) = .ok (ds ++ [unlocated (unended raw)])) ∧
      ∀ parts, parse? (unended raw) = some parts →
        ((∀ previous ∈ ds.getLast?, ¬ Continues previous (located directory parts)) →
          (Short parts.line → Short parts.column →
            ofLines directory (lines ++ [raw]) = .ok (ds ++ [located directory parts])) ∧
          (¬ (Short parts.line ∧ Short parts.column) →
            ∃ count, ofLines directory (lines ++ [raw]) = .error (.tooManyDigits count))) ∧
        ∀ before previous, ds = before ++ [previous] →
          Continues previous (located directory parts) →
          (Short parts.line →
            ofLines directory (lines ++ [raw]) = .ok (before ++ [previous.attach parts.message])) ∧
          (¬ Short parts.line →
            ∃ count, ofLines directory (lines ++ [raw]) = .error (.tooManyDigits count)) := by
  refine ⟨parse?_eq_none_iff, fun parts => ⟨cutAt_of_parse?, fun ⟨i, h⟩ => parse?_of_cutAt h⟩, ?_⟩
  intro lines ds hds
  refine ⟨fun hparse => ?_, fun parts hparse => ⟨fun halone => ?_, ?_⟩⟩
  · rw [ofLines_concat hds, addLine_of_none hshown hparse]
    simp [Except.map]
  · rw [← List.head?_reverse] at halone
    refine ⟨fun hline hcolumn => ?_, fun hlong => ?_⟩
    · rw [ofLines_concat hds, addLine_of_short hshown hparse hline hcolumn halone]
      simp [Except.map]
    · obtain ⟨count, hcount⟩ := addLine_of_long hshown hparse hlong halone
      exact ⟨count, by rw [ofLines_concat hds, hcount]; rfl⟩
  · rintro before previous rfl hcontinues
    refine ⟨fun hline => ?_, fun hline => ?_⟩
    · rw [ofLines_concat hds, List.reverse_concat,
        addLine_of_continues hshown hparse hline hcontinues]
      simp [Except.map]
    · obtain ⟨count, hcount⟩ := addLine_of_long_line hshown hparse hline
        (before ++ [previous]).reverse
      exact ⟨count, by rw [ofLines_concat hds, hcount]; rfl⟩

/-- A line with two severities and three numbers before the first: one belongs to the file. -/
def signedLine : Text := "a:12:-3:4: error: b: note: c  [d]\r".toList

def signedParts : MessageLine :=
  { file := "a:12".toList, line := some "-3".toList, column := some "4".toList, category := .error
    message := "b: note: c".toList, code := some "d".toList }

theorem ofLines_concat_of_shown_signedLine :
    shown signedLine = true ∧ (∃ i, CutAt (unended signedLine) i signedParts) ∧
      ofLines "/w".toList [signedLine] = .ok [located "/w".toList signedParts] ∧
      (located "/w".toList signedParts).file = some "/w/a:12".toList ∧
      (located "/w".toList signedParts).line = 0 ∧
      (located "/w".toList signedParts).column = 3 := by
  have hshown : shown signedLine = true := by decide +kernel
  obtain ⟨-, hcut, hlisting⟩ := ofLines_concat_of_shown "/w".toList signedLine hshown
  have hparse : parse? (unended signedLine) = some signedParts := by decide +kernel
  obtain ⟨-, hparts⟩ := hlisting [] [] rfl
  have hline : Short signedParts.line := by
    rintro t ht
    obtain rfl := Option.some.inj ht
    decide +kernel
  have hcolumn : Short signedParts.column := by
    rintro t ht
    obtain rfl := Option.some.inj ht
    decide +kernel
  obtain ⟨hnew, -⟩ := hparts signedParts hparse
  obtain ⟨hadded, -⟩ := hnew fun previous hprevious => by cases hprevious
  exact ⟨hshown, (hcut signedParts).mp hparse, hadded hline hcolumn, by decide +kernel,
    by decide +kernel, by decide +kernel⟩

end Recheck.Proofs.ListingSteps
