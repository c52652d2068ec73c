import Recheck.Diagnostic.Printer

/-!
Reading a printed message line. A line that is printed from its parts is read as these parts:
no severity stands before its own one, the two numbers before the severity are its column and
its line, and what stands in brackets at its end is its code. The message itself may hold
anything that fits on one line.
-/

namespace Recheck.Proofs.MessageLines

open Recheck.MessageLine

/-- No severity, with the signs around it, stands in the text. -/
def Unmarked (t : Text) : Prop := ∀ category, ¬ marker category <:+: t

/-- A number as it is spelled, with the digits from `0` to `9`. -/
def Spelled (t : Text) : Prop := t ≠ [] ∧ ∀ c ∈ t, c.isDigit

def IsCode (t : Text) : Prop := t ≠ [] ∧ ∀ c ∈ t, isCodeChar c

/-- The text ends in what reads as a code. -/
def EndsInCode (t : Text) : Prop :=
  ∃ before code, IsCode code ∧ t = before ++ [' ', ' ', '['] ++ code ++ [']']

/-- The parts of a line from which nothing is lost when it is printed. -/
structure Faithful (l : MessageLine) : Prop where
  file_ne : l.file ≠ []
  file_line : '\n' ∉ l.file
  file_unmarked : Unmarked l.file
  line : ∃ digits, Spelled digits ∧ l.line = some digits
  column : ∃ digits, Spelled digits ∧ l.column = some digits
  message_line : '\n' ∉ l.message
  code : ∀ code, l.code = some code → IsCode code
  no_code : l.code = none → ¬ EndsInCode l.message

theorem Unmarked.of_infix {t part : Text} (h : Unmarked t) (hpart : part <:+: t) : Unmarked part :=
  fun category hmarker => h category (hmarker.trans hpart)

theorem digitValue?_of_isDigit {c : Char} (h : c.isDigit) :
    Text.digitValue? c = some (c.toNat - '0'.toNat) := by
  have hrange : 0x30 ≤ c.toNat ∧ c.toNat < 0x30 + 10 := by
    simp only [Char.isDigit, Bool.and_eq_true, decide_eq_true_eq, UInt32.le_iff_toNat_le] at h
    exact ⟨h.1, Nat.lt_succ_of_le h.2⟩
  have hzero : '0'.toNat = 0x30 := rfl
  simp [Text.digitValue?, Text.zeroCodes, hrange, hzero]

theorem isDecimal_of_isDigit {c : Char} (h : c.isDigit) : Text.isDecimal c = true := by
  simp [Text.isDecimal, digitValue?_of_isDigit h]

theorem spelled_ofNat (n : Nat) : Spelled (Text.ofNat n) :=
  ⟨Nat.toDigits_ne_nil, fun _ hc => Nat.isDigit_of_mem_toDigits (by decide) (by decide) hc⟩

theorem decimalValue_of_isDigit {digits : Text} (h : ∀ c ∈ digits, c.isDigit) (n : Nat) :
    digits.foldl (fun n c => 10 * n + (Text.digitValue? c).getD 0) n =
      Nat.ofDigitChars 10 digits n := by
  induction digits generalizing n with
  | nil => rfl
  | cons c digits ih =>
      obtain ⟨hc, hdigits⟩ := List.forall_mem_cons.mp h
      rw [List.foldl_cons, digitValue?_of_isDigit hc, Nat.ofDigitChars_cons]
      exact ih hdigits _

theorem decimalValue_ofNat (n : Nat) : Text.decimalValue (Text.ofNat n) = n :=
  (decimalValue_of_isDigit (spelled_ofNat n).2 0).trans Nat.ofDigitChars_ten_toDigits

theorem index_ofNat {n : Nat} (h : (Text.ofNat (n + 1)).length ≤ Text.maxDigits) :
    index (some (Text.ofNat (n + 1))) = .ok n := by
  obtain ⟨hne, hdigits⟩ := spelled_ofNat (n + 1)
  have hvalue := decimalValue_ofNat (n + 1)
  revert h hne hdigits hvalue
  generalize Text.ofNat (n + 1) = digits
  intro h hne hdigits hvalue
  unfold index
  split
  · contradiction
  · next hminus =>
      obtain rfl := Option.some.inj hminus
      exact absurd (hdigits '-' List.mem_cons_self) (by decide)
  · next hsome =>
      obtain rfl := Option.some.inj hsome
      rw [if_neg (Nat.not_lt.mpr h), hvalue, Nat.add_sub_cancel]

theorem space_of_colon_in_marker {category : Category} {n : Nat}
    (h : (marker category)[n]? = some ':') : (marker category)[n + 1]? = some ' ' := by
  obtain ⟨hn, hcolon⟩ := List.getElem?_eq_some_iff.mp h
  have hall : ∀ n < (marker category).length,
      (marker category)[n]? = some ':' → (marker category)[n + 1]? = some ' ' := by
    cases category <;> decide
  exact hall n hn h

theorem not_marker_isPrefix_over_colon {t rest : Text} {c : Char} (ht : Unmarked t) (hc : c ≠ ' ')
    (category : Category) : ¬ marker category <+: t ++ ':' :: c :: rest := by
  rintro ⟨after, h⟩
  rcases List.append_eq_append_iff.mp h with ⟨more, rfl, -⟩ | ⟨more, hmarker, hmore⟩
  · exact ht category (List.prefix_append _ more).isInfix
  · cases more with
    | nil => exact ht category (by simp [hmarker])
    | cons colon more =>
        obtain ⟨hcolon, hmore⟩ := List.cons.inj hmore
        have hspace : (marker category)[t.length + 1]? = some ' ' :=
          space_of_colon_in_marker (by simp [hmarker, ← hcolon])
        cases more with
        | nil => simp [hmarker] at hspace
        | cons space more =>
            obtain ⟨rfl, -⟩ := List.cons.inj hmore
            exact hc (by simpa [hmarker] using hspace)

theorem Spelled.notMem {digits : Text} (h : Spelled digits) {c : Char} (hc : c.isDigit = false) :
    c ∉ digits := fun hmem => Bool.false_ne_true (hc.symm.trans (h.2 c hmem))

theorem not_marker_isPrefix_of_number {s number rest : Text} (hnumber : number ≠ [])
    (hcolon : ':' ∉ number) (hspace : ' ' ∉ number) (hs : s <:+ ':' :: number) (hne : s ≠ [])
    (category : Category) : ¬ marker category <+: s ++ rest := by
  rintro ⟨after, heq⟩
  rcases List.suffix_cons_iff.mp hs with rfl | hs
  · obtain ⟨c, number, rfl⟩ := List.exists_cons_of_ne_nil hnumber
    obtain rfl : ' ' = c := (List.cons.inj (List.cons.inj heq).2).1
    exact hspace List.mem_cons_self
  · obtain ⟨c, s, rfl⟩ := List.exists_cons_of_ne_nil hne
    obtain rfl : ':' = c := (List.cons.inj heq).1
    exact hcolon (hs.subset List.mem_cons_self)

theorem markerHere?_eq_none {t : Text} (h : ∀ category, ¬ marker category <+: t) :
    markerHere? t = none := by
  rw [markerHere?, List.findSome?_eq_none_iff]
  intro category _
  rw [Option.map_eq_none_iff, Option.eq_none_iff_forall_ne_some]
  intro rest hrest
  exact h category ⟨rest, (Text.eq_append_of_dropHead? hrest).symm⟩

theorem markerHere?_marker (category : Category) (rest : Text) :
    markerHere? (marker category ++ rest) = some (category, rest) := by
  cases category <;> simp [markerHere?, marker, severityWord, Text.dropHead?]

theorem cutAtMarker_marker (category : Category) (rest : Text) :
    cutAtMarker (marker category ++ rest) = some ([], category, rest) := by
  have hhere := markerHere?_marker category rest
  have hmarker : marker category ++ rest
      = ':' :: ([' '] ++ severityWord category ++ [':', ' '] ++ rest) := rfl
  rw [hmarker] at hhere ⊢
  rw [cutAtMarker, hhere]

theorem cutAtMarker_eq_none {t : Text} (h : Unmarked t) : cutAtMarker t = none := by
  induction t with
  | nil => rfl
  | cons c t ih =>
      have hhere := markerHere?_eq_none fun category hmarker => h category hmarker.isInfix
      rw [cutAtMarker, hhere, ih (h.of_infix (List.suffix_cons c t).isInfix)]
      rfl

theorem parse?_of_unmarked {t : Text} (h : Unmarked t) : parse? t = none := by
  unfold parse?
  split
  · rfl
  · cases t with
    | nil => rfl
    | cons c t => simp [cutAtMarker_eq_none (h.of_infix (List.suffix_cons c t).isInfix)]

theorem cutAtMarker_append {t rest : Text}
    (h : ∀ s, s <:+ t → s ≠ [] → ∀ category, ¬ marker category <+: s ++ rest) :
    cutAtMarker (t ++ rest)
      = (cutAtMarker rest).map fun (before, category, message) =>
        (t ++ before, category, message) := by
  induction t with
  | nil => simp
  | cons c t ih =>
      have hhere := markerHere?_eq_none (h (c :: t) (List.suffix_refl _) (by simp))
      rw [List.cons_append] at hhere ⊢
      rw [cutAtMarker, hhere, ih fun s hs => h s (hs.trans (List.suffix_cons c t)), Option.map_map]
      rfl

theorem cutAtMarker_number {digits : Text} (hdigits : Spelled digits) (rest : Text) :
    cutAtMarker (':' :: (digits ++ rest)) = (cutAtMarker rest).map
      fun (before, category, message) => (':' :: (digits ++ before), category, message) :=
  cutAtMarker_append fun _ hs hne k =>
    not_marker_isPrefix_of_number hdigits.1 (hdigits.notMem rfl) (hdigits.notMem rfl) hs hne k

theorem cutAtMarker_printed {file line column message : Text} {category : Category}
    (hfile : Unmarked file) (hline : Spelled line) (hcolumn : Spelled column) :
    cutAtMarker (file ++ ':' :: (line ++ ':' :: (column ++ (marker category ++ message))))
      = some (file ++ ':' :: (line ++ ':' :: column), category, message) := by
  have hover : ∀ s, s <:+ file → s ≠ [] → ∀ k,
      ¬ marker k <+: s ++ ':' :: (line ++ ':' :: (column ++ (marker category ++ message))) := by
    intro s hs _ k
    cases line with
    | nil => exact absurd rfl hline.1
    | cons digit line =>
        have hdigit : digit ≠ ' ' := fun h =>
          absurd (hline.2 digit List.mem_cons_self) (h ▸ by decide)
        exact not_marker_isPrefix_over_colon (hfile.of_infix hs.isInfix) hdigit k
  rw [cutAtMarker_append hover, cutAtMarker_number hline, cutAtMarker_number hcolumn,
    cutAtMarker_marker]
  simp

theorem cutNumber?_append (signed : Bool) {digits : Text} (before : Text) (h : Spelled digits) :
    cutNumber? signed (before ++ ':' :: digits) = some (before, digits) := by
  have hreverse : (before ++ ':' :: digits).reverse = digits.reverse ++ ':' :: before.reverse := by
    simp
  have hdecimal : ∀ c ∈ digits.reverse, Text.isDecimal c = true := fun c hc =>
    isDecimal_of_isDigit (h.2 c (List.mem_reverse.mp hc))
  have hcolon : ¬ Text.isDecimal ':' = true := by decide
  rw [cutNumber?, hreverse, List.takeWhile_append_of_pos hdecimal,
    List.dropWhile_append_of_pos hdecimal, List.takeWhile_cons_of_neg hcolon,
    List.dropWhile_cons_of_neg hcolon, List.append_nil, List.reverse_reverse,
    if_neg (by simpa using h.1)]
  simp

theorem cutPosition_printed {file line column : Text} (hfile : file ≠ []) (hline : Spelled line)
    (hcolumn : Spelled column) :
    cutPosition (file ++ ':' :: (line ++ ':' :: column)) = (file, some line, some column) := by
  have hcolumn := cutNumber?_append false (file ++ ':' :: line) hcolumn
  rw [List.append_assoc, List.cons_append] at hcolumn
  simp [cutPosition, hcolumn, cutNumber?_append true file hline, hfile]

theorem cutCode_append {code : Text} (message : Text) (h : IsCode code) :
    cutCode (message ++ ([' ', ' ', '['] ++ code ++ [']'])) = (message, some code) := by
  have hreverse : (message ++ ([' ', ' ', '['] ++ code ++ [']'])).reverse
      = ']' :: (code.reverse ++ '[' :: ' ' :: ' ' :: message.reverse) := by simp
  have hcode : ∀ c ∈ code.reverse, isCodeChar c = true := fun c hc => h.2 c (List.mem_reverse.mp hc)
  have hbracket : ¬ isCodeChar '[' = true := by decide
  rw [cutCode, hreverse]
  simp only [List.takeWhile_append_of_pos hcode, List.dropWhile_append_of_pos hcode,
    List.takeWhile_cons_of_neg hbracket, List.dropWhile_cons_of_neg hbracket, List.append_nil,
    List.reverse_reverse]
  rw [if_neg (by simpa using h.1)]

theorem cutCode_eq_none {t : Text} (h : ¬ EndsInCode t) : cutCode t = (t, none) := by
  unfold cutCode
  split
  · next back hback =>
      have ht : t = back.reverse ++ [']'] := by
        rw [← List.reverse_reverse t, hback, List.reverse_cons]
      split
      · next before hbefore =>
          dsimp only
          split
          · rfl
          · next hne =>
              refine absurd ⟨before.reverse, (back.takeWhile isCodeChar).reverse,
                ⟨by simpa using hne, ?_⟩, ?_⟩ h
              · intro c hc
                exact List.all_eq_true.mp List.all_takeWhile c (List.mem_reverse.mp hc)
              · have hcut := List.takeWhile_append_dropWhile (p := isCodeChar) (l := back)
                rw [hbefore] at hcut
                rw [ht, ← congrArg List.reverse hcut]
                simp
      · rfl
  · rfl

theorem code_line {code : Text} (h : IsCode code) : '\n' ∉ code := fun hmem =>
  absurd (h.2 _ hmem) (by decide)

theorem marker_line (category : Category) : '\n' ∉ marker category := by
  cases category <;> decide

theorem parse?_print {l : MessageLine} (h : Faithful l) : parse? l.print = some l := by
  obtain ⟨file, line, column, category, message, code⟩ := l
  obtain ⟨line, hline, rfl⟩ := h.line
  obtain ⟨column, hcolumn, rfl⟩ := h.column
  let tail : Text := code.elim [] fun code => [' ', ' ', '['] ++ code ++ [']']
  have hprint : MessageLine.print ⟨file, some line, some column, category, message, code⟩
      = file ++ ':' :: (line ++ ':' :: (column ++ (marker category ++ (message ++ tail)))) := by
    simp [MessageLine.print, tail]
  have htail : '\n' ∉ tail := by
    cases code with
    | none => simp [tail]
    | some code => simpa [tail] using code_line (h.code code rfl)
  have hcode : cutCode (message ++ tail) = (message, code) := by
    cases code with
    | none => simpa [tail] using cutCode_eq_none (h.no_code rfl)
    | some code => exact cutCode_append message (h.code code rfl)
  have hnoline : ('\n' : Char) ∉
      file ++ ':' :: (line ++ ':' :: (column ++ (marker category ++ (message ++ tail)))) := by
    simp [h.file_line, hline.notMem, hcolumn.notMem, marker_line, h.message_line, htail]
  rw [hprint, parse?.eq_def, if_neg (by simpa using hnoline)]
  cases file with
  | nil => exact absurd rfl h.file_ne
  | cons c file =>
      have hunmarked : Unmarked file := h.file_unmarked.of_infix (List.suffix_cons c file).isInfix
      have hposition := cutPosition_printed h.file_ne hline hcolumn
      rw [List.cons_append] at hposition ⊢
      simp only [cutAtMarker_printed hunmarked hline hcolumn]
      simp [hposition, hcode]

end Recheck.Proofs.MessageLines
