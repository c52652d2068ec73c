import Recheck.Proofs.Listings

/-!
How a message line is cut. Of all ways to read a line as a place, a severity and a message, the
one that counts has the first severity of the line and the shortest file before it. A line can be
cut in this way unless it has no severity or goes on after a line feed.
-/

namespace Recheck.Proofs.LineParts

open Recheck.Diagnostic Listings MessageLine MessageLines

/-- A severity, with the signs around it, starts at the index; something stands before it. -/
def MarkedAt (line : Text) (i : Nat) (category : Category) : Prop :=
  1 ≤ i ∧ marker category <+: line.drop i

/-- A number in decimal digits of any script, with a minus sign where `signed` allows one. -/
def IsNumber (signed : Bool) (t : Text) : Prop :=
  ∃ digits, digits ≠ [] ∧ (∀ c ∈ digits, Text.isDecimal c) ∧
    (t = digits ∨ signed = true ∧ t = '-' :: digits)

/-- The ways to read what stands before a severity as a file, a line and a column. -/
inductive Reads : Text → Text → Option Text → Option Text → Prop
  | file (file : Text) : Reads file file none none
  | line {file line : Text} (is_line : IsNumber true line) :
      Reads (file ++ ':' :: line) file (some line) none
  | column {file line column : Text} (is_line : IsNumber true line)
      (is_column : IsNumber false column) :
      Reads (file ++ ':' :: line ++ ':' :: column) file (some line) (some column)

/-- The reading with the shortest file that is not empty. -/
structure Shortest (place file : Text) (line column : Option Text) : Prop where
  reads : Reads place file line column
  file_ne : file ≠ []
  shortest : ∀ file' line' column', Reads place file' line' column' → file' ≠ [] →
    file.length ≤ file'.length

/-- What follows a severity: a message with a code behind it, or else a message alone. -/
inductive Ends : Text → Text → Option Text → Prop
  | code {message code : Text} (is_code : IsCode code) :
      Ends (message ++ ([' ', ' ', '['] ++ code ++ [']'])) message (some code)
  | plain {message : Text} (no_code : ¬ EndsInCode message) : Ends message message none

/-- A line is cut into parts at the severity that starts at the index, the first one. -/
structure CutAt (line : Text) (i : Nat) (parts : MessageLine) : Prop where
  one_line : '\n' ∉ line
  marked : MarkedAt line i parts.category
  first : ∀ j category, MarkedAt line j category → i ≤ j
  place : Shortest (line.take i) parts.file parts.line parts.column
  ending : Ends (line.drop (i + (marker parts.category).length)) parts.message parts.code

theorem exists_of_markerHere? {t rest : Text} {category : Category}
    (h : markerHere? t = some (category, rest)) : t = marker category ++ rest := by
  obtain ⟨category', -, hhere⟩ := List.exists_of_findSome?_eq_some h
  obtain ⟨rest', hdrop, heq⟩ := Option.map_eq_some_iff.mp hhere
  obtain ⟨rfl, rfl⟩ := Prod.mk.inj heq
  exact Text.eq_append_of_dropHead? hdrop

theorem not_marker_of_markerHere? {t : Text} (h : markerHere? t = none) (category : Category) :
    ¬ marker category <+: t := by
  rintro ⟨rest, rfl⟩
  rw [markerHere?_marker] at h
  cases h

theorem of_cutAtMarker {t before rest : Text} {category : Category}
    (h : cutAtMarker t = some (before, category, rest)) :
    t = before ++ (marker category ++ rest) ∧
      ∀ i < before.length, ∀ k, ¬ marker k <+: t.drop i := by
  induction t generalizing before with
  | nil => cases h
  | cons c t ih =>
      rw [cutAtMarker] at h
      split at h
      · next category' message hhere =>
          cases h
          exact ⟨exists_of_markerHere? hhere, by simp⟩
      · next hnone =>
          obtain ⟨⟨before', category', rest'⟩, hcut, heq⟩ := Option.map_eq_some_iff.mp h
          cases heq
          obtain ⟨rfl, hfirst⟩ := ih hcut
          refine ⟨rfl, fun i hi k => ?_⟩
          cases i with
          | zero => exact not_marker_of_markerHere? hnone k
          | succ i => exact hfirst i (Nat.lt_of_succ_lt_succ hi) k

theorem cutAtMarker_of_first {t before rest : Text} {category : Category}
    (heq : t = before ++ (marker category ++ rest))
    (hfirst : ∀ i < before.length, ∀ k, ¬ marker k <+: t.drop i) :
    cutAtMarker t = some (before, category, rest) := by
  subst heq
  rw [cutAtMarker_append, cutAtMarker_marker]
  · simp
  · rintro s ⟨head, rfl⟩ hne k hprefix
    refine hfirst head.length ?_ k ?_
    · have hpos := List.length_pos_iff.mpr hne
      rw [List.length_append]
      omega
    · rwa [List.append_assoc, List.drop_left]

theorem not_marker_of_cutAtMarker {t : Text} (h : cutAtMarker t = none) (i : Nat)
    (category : Category) : ¬ marker category <+: t.drop i := by
  induction t generalizing i with
  | nil => simp [marker]
  | cons c t ih =>
      rw [cutAtMarker] at h
      split at h
      · cases h
      · next hnone =>
          cases i with
          | zero => exact not_marker_of_markerHere? hnone category
          | succ i => exact ih (Option.map_eq_none_iff.mp h) i

theorem IsNumber.ne_nil {signed : Bool} {t : Text} (h : IsNumber signed t) : t ≠ [] := by
  obtain ⟨digits, hne, -, rfl | ⟨-, rfl⟩⟩ := h
  · exact hne
  · exact List.cons_ne_nil _ _

theorem IsNumber.notMem {signed : Bool} {t : Text} (h : IsNumber signed t) {c : Char}
    (hsign : c ≠ '-') (hdecimal : Text.isDecimal c = false) : c ∉ t := by
  obtain ⟨digits, -, hdigits, ht⟩ := h
  have hc : c ∉ digits := fun hmem => Bool.false_ne_true (hdecimal.symm.trans (hdigits c hmem))
  obtain rfl | ⟨-, rfl⟩ := ht
  · exact hc
  · exact List.not_mem_cons_of_ne_of_not_mem hsign hc

theorem IsNumber.colon_notMem {signed : Bool} {t : Text} (h : IsNumber signed t) : ':' ∉ t :=
  h.notMem (by decide) (by decide)

theorem IsNumber.feed_notMem {signed : Bool} {t : Text} (h : IsNumber signed t) : '\n' ∉ t :=
  h.notMem (by decide) (by decide)

theorem IsNumber.signed {t : Text} (h : IsNumber false t) : IsNumber true t := by
  obtain ⟨digits, hne, hdigits, rfl | ⟨hsigned, -⟩⟩ := h
  · exact ⟨t, hne, hdigits, .inl rfl⟩
  · cases hsigned

theorem cutNumber?_eq (signed : Bool) (before : Text) {digits : Text} (hne : digits ≠ [])
    (hdigits : ∀ c ∈ digits, Text.isDecimal c) {c : Char} (hc : Text.isDecimal c = false) :
    cutNumber? signed (before ++ c :: digits) =
      match c :: before.reverse with
      | ':' :: before => some (before.reverse, digits)
      | '-' :: ':' :: before => if signed then some (before.reverse, '-' :: digits) else none
      | _ => none := by
  have hreverse : (before ++ c :: digits).reverse = digits.reverse ++ c :: before.reverse := by simp
  have hdecimal : ∀ d ∈ digits.reverse, Text.isDecimal d = true := fun d hd =>
    hdigits d (List.mem_reverse.mp hd)
  have hstop : ¬ Text.isDecimal c = true := by simp [hc]
  rw [cutNumber?, hreverse, List.takeWhile_append_of_pos hdecimal,
    List.dropWhile_append_of_pos hdecimal, List.takeWhile_cons_of_neg hstop,
    List.dropWhile_cons_of_neg hstop, List.append_nil, List.reverse_reverse]
  exact if_neg (by simpa using hne)

theorem cutNumber?_of_isNumber {signed : Bool} {number : Text} (h : IsNumber signed number)
    (before : Text) : cutNumber? signed (before ++ ':' :: number) = some (before, number) := by
  obtain ⟨digits, hne, hdigits, rfl | ⟨rfl, rfl⟩⟩ := h
  · rw [cutNumber?_eq signed before hne hdigits (by decide)]
    simp
  · have hsplit : before ++ ':' :: '-' :: digits = before ++ [':'] ++ '-' :: digits := by simp
    rw [hsplit, cutNumber?_eq true (before ++ [':']) hne hdigits (by decide)]
    simp

theorem isNumber_of_cutNumber? {signed : Bool} {t before number : Text}
    (h : cutNumber? signed t = some (before, number)) :
    t = before ++ ':' :: number ∧ IsNumber signed number := by
  have hback := List.takeWhile_append_dropWhile (p := Text.isDecimal) (l := t.reverse)
  have hdigits : ∀ c ∈ (t.reverse.takeWhile Text.isDecimal).reverse, Text.isDecimal c := fun c hc =>
    List.all_eq_true.mp List.all_takeWhile c (List.mem_reverse.mp hc)
  unfold cutNumber? at h
  dsimp only at h
  split at h
  · cases h
  · next hempty =>
      have hne : (t.reverse.takeWhile Text.isDecimal).reverse ≠ [] := by simpa using hempty
      split at h
      · next rest hrest =>
          cases h
          refine ⟨?_, _, hne, hdigits, .inl rfl⟩
          rw [hrest] at hback
          simpa using (congrArg List.reverse hback).symm
      · next rest hrest =>
          split at h
          · next hsigned =>
              cases h
              refine ⟨?_, _, hne, hdigits, .inr ⟨hsigned, rfl⟩⟩
              rw [hrest] at hback
              simpa using (congrArg List.reverse hback).symm
          · cases h
      · cases h

theorem Reads.unique {place file : Text} {line column line' column' : Option Text}
    (h : Reads place file line column) (h' : Reads place file line' column') :
    line = line' ∧ column = column' := by
  generalize hplace : place = place' at h'
  cases h with
  | file =>
      cases h' with
      | file => exact ⟨rfl, rfl⟩
      | line => simp at hplace
      | column => simp at hplace
  | line is_line =>
      cases h' with
      | file => simp at hplace
      | line is_line' => simpa using hplace
      | column is_line' is_column' =>
          rw [List.append_assoc, List.append_cancel_left_eq] at hplace
          obtain ⟨-, rfl⟩ := List.cons.inj hplace
          exact absurd (by simp) is_line.colon_notMem
  | @column _ line _ is_line is_column =>
      cases h' with
      | file => simp at hplace
      | line is_line' =>
          rw [List.append_assoc, List.append_cancel_left_eq] at hplace
          obtain ⟨-, rfl⟩ := List.cons.inj hplace
          exact absurd (by simp) is_line'.colon_notMem
      | column is_line' is_column' =>
          have hcut := cutNumber?_of_isNumber is_column (file ++ ':' :: line)
          rw [hplace, cutNumber?_of_isNumber is_column'] at hcut
          obtain ⟨hline, rfl⟩ := Prod.mk.inj (Option.some.inj hcut)
          simpa [eq_comm] using hline

theorem Reads.exists_suffix {place file : Text} {line column : Option Text}
    (h : Reads place file line column) : ∃ rest, place = file ++ rest := by
  cases h with
  | file => exact ⟨[], (List.append_nil _).symm⟩
  | line => exact ⟨_, rfl⟩
  | column => exact ⟨_, List.append_assoc ..⟩

theorem Shortest.unique {place file file' : Text} {line column line' column' : Option Text}
    (h : Shortest place file line column) (h' : Shortest place file' line' column') :
    file = file' ∧ line = line' ∧ column = column' := by
  have hlength : file.length = file'.length := Nat.le_antisymm
    (h.shortest _ _ _ h'.reads h'.file_ne) (h'.shortest _ _ _ h.reads h.file_ne)
  obtain ⟨rest, hrest⟩ := h.reads.exists_suffix
  obtain ⟨rest', hrest'⟩ := h'.reads.exists_suffix
  obtain ⟨rfl, -⟩ := List.append_inj (hrest.symm.trans hrest') hlength
  exact ⟨rfl, h.reads.unique h'.reads⟩

theorem Reads.cut_line {place file line : Text} (h : Reads place file (some line) none) :
    cutNumber? true place = some (file, line) := by
  cases h with
  | line is_line => exact cutNumber?_of_isNumber is_line file

theorem Reads.cut_column {place file line column : Text}
    (h : Reads place file (some line) (some column)) :
    cutNumber? false place = some (file ++ ':' :: line, column) ∧
      cutNumber? true place = some (file ++ ':' :: line, column) ∧
      cutNumber? true (file ++ ':' :: line) = some (file, line) := by
  cases h with
  | column is_line is_column =>
      exact ⟨cutNumber?_of_isNumber is_column _, cutNumber?_of_isNumber is_column.signed _,
        cutNumber?_of_isNumber is_line file⟩

theorem Reads.column_le {place file line column file' : Text} {line' column' : Option Text}
    (h : Reads place file (some line) (some column)) (h' : Reads place file' line' column') :
    file.length ≤ file'.length := by
  obtain ⟨-, hcut, hrest⟩ := h.cut_column
  cases h' with
  | file =>
      obtain ⟨rest, rfl⟩ := h.exists_suffix
      simp
  | line is_line =>
      rw [cutNumber?_of_isNumber is_line] at hcut
      obtain ⟨rfl, -⟩ := Prod.mk.inj (Option.some.inj hcut)
      simp
  | column is_line is_column =>
      rw [cutNumber?_of_isNumber is_column.signed] at hcut
      obtain ⟨heq, -⟩ := Prod.mk.inj (Option.some.inj hcut)
      rw [← heq, cutNumber?_of_isNumber is_line] at hrest
      obtain ⟨rfl, -⟩ := Prod.mk.inj (Option.some.inj hrest)
      exact Nat.le_refl _

theorem Reads.line_le {place file line file' : Text} {line' : Option Text}
    (h : Reads place file (some line) none) (h' : Reads place file' line' none) :
    file.length ≤ file'.length := by
  have hcut := h.cut_line
  cases h' with
  | file =>
      obtain ⟨rest, rfl⟩ := h.exists_suffix
      simp
  | line is_line =>
      rw [cutNumber?_of_isNumber is_line] at hcut
      obtain ⟨rfl, -⟩ := Prod.mk.inj (Option.some.inj hcut)
      exact Nat.le_refl _

theorem cutPosition_of_column {place file line column : Text} (hfile : file ≠ [])
    (h : Reads place file (some line) (some column)) :
    cutPosition place = (file, some line, some column) := by
  obtain ⟨hcolumn, -, hline⟩ := h.cut_column
  simp [cutPosition, hcolumn, hline, hfile]

theorem cutPosition_ne_of_line {place file line : Text} (hfile : file ≠ [])
    (h : Reads place file (some line) none) : (cutPosition place).2.1 ≠ none := by
  unfold cutPosition
  simp only [h.cut_line, Option.bind_eq_bind, Option.bind_some, List.isEmpty_iff, if_neg hfile]
  cases hcolumn : cutNumber? false place with
  | none => simp
  | some cut =>
      cases hline : cutNumber? true cut.1 with
      | none => simp [hline]
      | some cut' => by_cases hempty : cut'.1 = [] <;> simp [hline, hempty]

/-- A reading of a place with a file that is not empty. -/
def Fits (place : Text) (r : Text × Option Text × Option Text) : Prop :=
  Reads place r.1 r.2.1 r.2.2 ∧ r.1 ≠ []

theorem fits_cutPosition {place : Text} (hne : place ≠ []) : Fits place (cutPosition place) := by
  have hor : ∀ a b : Option (Text × Option Text × Option Text), (∀ r, a = some r → Fits place r) →
      (∀ r, b = some r → Fits place r) → Fits place ((a.or b).getD (place, none, none)) := by
    intro a b ha hb
    cases a with
    | some r => exact ha r rfl
    | none =>
        cases b with
        | some r => exact hb r rfl
        | none => exact ⟨.file place, hne⟩
  refine hor _ _ (fun r hcut => ?_) (fun r hcut => ?_)
  · obtain ⟨⟨rest, column⟩, hcolumn, hrest⟩ := Option.bind_eq_some_iff.mp hcut
    obtain ⟨⟨file, line⟩, hline, hr⟩ := Option.bind_eq_some_iff.mp hrest
    obtain ⟨rfl, is_column⟩ := isNumber_of_cutNumber? hcolumn
    obtain ⟨rfl, is_line⟩ := isNumber_of_cutNumber? hline
    dsimp only at hr
    split at hr
    · cases hr
    · next hfile =>
        cases hr
        exact ⟨.column is_line is_column, by simpa using hfile⟩
  · obtain ⟨⟨file, line⟩, hline, hr⟩ := Option.bind_eq_some_iff.mp hcut
    obtain ⟨rfl, is_line⟩ := isNumber_of_cutNumber? hline
    dsimp only at hr
    split at hr
    · cases hr
    · next hfile =>
        cases hr
        exact ⟨.line is_line, by simpa using hfile⟩

/-- What stands before a severity is read with the shortest file. -/
theorem shortest_cutPosition {place : Text} (hne : place ≠ []) :
    Shortest place (cutPosition place).1 (cutPosition place).2.1 (cutPosition place).2.2 := by
  obtain ⟨hreads, hfile⟩ := fits_cutPosition hne
  refine ⟨hreads, hfile, fun file' line' column' hreads' hfile' => ?_⟩
  cases hreads' with
  | column is_line is_column =>
      rw [cutPosition_of_column hfile' (.column is_line is_column)]
  | line is_line =>
      have hline := cutPosition_ne_of_line hfile' (.line is_line)
      generalize cutPosition _ = r at hreads hline
      obtain ⟨file, line, column⟩ := r
      cases line with
      | none => exact absurd rfl hline
      | some line =>
          cases column with
          | none => exact hreads.line_le (.line is_line)
          | some column => exact hreads.column_le (.line is_line)
  | file =>
      obtain ⟨rest, hrest⟩ := hreads.exists_suffix
      have hlength := congrArg List.length hrest
      rw [List.length_append] at hlength
      omega

theorem ends_cutCode (t : Text) : Ends t (cutCode t).1 (cutCode t).2 := by
  by_cases hcode : EndsInCode t
  · obtain ⟨message, code, is_code, rfl⟩ := hcode
    rw [List.append_assoc message, List.append_assoc message, cutCode_append message is_code]
    exact .code is_code
  · rw [cutCode_eq_none hcode]
    exact .plain hcode

theorem cutCode_of_ends {t message : Text} {code : Option Text} (h : Ends t message code) :
    cutCode t = (message, code) := by
  cases h with
  | code is_code => exact cutCode_append message is_code
  | plain no_code => exact cutCode_eq_none no_code

theorem Ends.isCode {t message code : Text} (h : Ends t message (some code)) : IsCode code := by
  cases h with
  | code is_code => exact is_code

theorem cutAt_of_parse? {line : Text} {parts : MessageLine} (h : parse? line = some parts) :
    ∃ i, CutAt line i parts := by
  unfold parse? at h
  split at h
  · cases h
  · next hline =>
      split at h
      · cases h
      · next c rest =>
          obtain ⟨⟨before, category, after⟩, hcut, hparts⟩ := Option.bind_eq_some_iff.mp h
          obtain rfl := Option.some.inj hparts
          obtain ⟨rfl, hfirst⟩ := of_cutAtMarker hcut
          refine ⟨before.length + 1, by simpa using hline, ⟨Nat.le_add_left 1 _, ?_⟩, ?_, ?_, ?_⟩
          · exact ⟨after, by simp⟩
          · rintro j k ⟨hj, hprefix⟩
            obtain ⟨j, rfl⟩ := Nat.exists_eq_add_of_le' hj
            by_contra hlt
            exact hfirst j (by omega) k hprefix
          · have htake : (c :: (before ++ (marker category ++ after))).take (before.length + 1) =
                c :: before := by simp
            rw [htake]
            exact shortest_cutPosition (List.cons_ne_nil c before)
          · have hdrop : (c :: (before ++ (marker category ++ after))).drop
                (before.length + 1 + (marker category).length) = after := by
              rw [Nat.add_right_comm, List.drop_succ_cons, ← List.append_assoc,
                ← List.length_append, List.drop_left]
            rw [hdrop]
            exact ends_cutCode after

theorem parse?_of_cutAt {line : Text} {i : Nat} {parts : MessageLine} (h : CutAt line i parts) :
    parse? line = some parts := by
  obtain ⟨hpos, after, hafter⟩ := h.marked
  obtain ⟨n, rfl⟩ := Nat.exists_eq_add_of_le' hpos
  have hline : line.contains '\n' = false := by simpa using h.one_line
  cases line with
  | nil => simp [marker] at hafter
  | cons c rest =>
      rw [List.drop_succ_cons] at hafter
      have hcut : cutAtMarker rest = some (rest.take n, parts.category, after) := by
        refine cutAtMarker_of_first (by rw [hafter, List.take_append_drop]) fun j hj k hprefix => ?_
        have hn := List.length_take_le n rest
        have hle := h.first (j + 1) k ⟨Nat.le_add_left 1 j, hprefix⟩
        omega
      have hmessage : (c :: rest).drop (n + 1 + (marker parts.category).length) = after := by
        rw [Nat.add_right_comm, List.drop_succ_cons, ← List.drop_drop, ← hafter, List.drop_left]
      have hshortest := shortest_cutPosition (List.cons_ne_nil c (rest.take n))
      have hplace := h.place.unique hshortest
      have hending := cutCode_of_ends (hmessage ▸ h.ending)
      obtain ⟨hfile, hnumber, hcolumn⟩ := hplace
      rw [parse?.eq_def, hline]
      simp only [Bool.false_eq_true, if_false, hcut, Option.bind_eq_bind, Option.bind_some, hending,
        ← hfile, ← hnumber, ← hcolumn]
      rfl

theorem parse?_eq_none_iff {line : Text} :
    parse? line = none ↔ '\n' ∈ line ∨ ∀ i category, ¬ MarkedAt line i category := by
  constructor
  · intro h
    by_cases hline : '\n' ∈ line
    · exact .inl hline
    · refine .inr ?_
      rintro i k ⟨hpos, hprefix⟩
      obtain ⟨n, rfl⟩ := Nat.exists_eq_add_of_le' hpos
      cases line with
      | nil => simp [marker] at hprefix
      | cons c rest =>
          unfold parse? at h
          rw [if_neg (by simpa using hline)] at h
          cases hcut : cutAtMarker rest with
          | none => exact not_marker_of_cutAtMarker hcut n k hprefix
          | some cut => simp [hcut] at h
  · intro h
    cases hparse : parse? line with
    | none => rfl
    | some parts =>
        obtain ⟨i, hcut⟩ := cutAt_of_parse? hparse
        rcases h with hline | hnone
        · exact absurd hline hcut.one_line
        · exact absurd hcut.marked (hnone i parts.category)

end Recheck.Proofs.LineParts
