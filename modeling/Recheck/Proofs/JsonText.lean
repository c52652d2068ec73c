import Mathlib.Data.List.DropRight
import Mathlib.Data.List.TakeDrop
import Mathlib.Tactic.SplitIfs
import Recheck.Json.Printer
import Recheck.Json.Reader

/-!
Reading a printed document. The text of a value, in either layout, is read as the value when no
number in it is a double: every escape stands for its character again, also where a character is
spelled by two surrogates, and the white space of a layout stands only between tokens. All
characters of a text without white space are printable ASCII.
-/

namespace Recheck.Proofs.JsonText

open Recheck.Json

mutual

/-- No number in the value is a double. -/
def Whole : Json → Prop
  | .number (.real _) => False
  | .array items => WholeItems items
  | .object fields => WholeFields fields
  | _ => True

def WholeItems : List Json → Prop
  | [] => True
  | item :: items => Whole item ∧ WholeItems items

def WholeFields : List (Text × Json) → Prop
  | [] => True
  | (_, value) :: fields => Whole value ∧ WholeFields fields

end

theorem hexValue?_hexDigit {n : Nat} (h : n < 16) : hexValue? (hexDigit n) = some n := by
  have hall : ∀ n < 16, hexValue? (hexDigit n) = some n := by decide
  exact hall n h

theorem readUnits_escapeUnit {n : Nat} {us : List Nat} {rest behind : Text} (hn : n < 0x10000)
    (h : readUnits rest = some (us, behind)) :
    readUnits (escapeUnit n ++ rest) = some (n :: us, behind) := by
  have hdigit (m : Nat) : hexValue? (hexDigit (m % 16)) = some (m % 16) :=
    hexValue?_hexDigit (Nat.mod_lt m (by decide))
  have hsum : 4096 * (n / 4096 % 16) + 256 * (n / 256 % 16) + 16 * (n / 16 % 16) + n % 16 = n := by
    omega
  simp [escapeUnit, readUnits, unit?, hdigit, hsum, h]

theorem toNat_char (c : Char) : c.toNat < 0xD800 ∨ 0xE000 ≤ c.toNat ∧ c.toNat < 0x110000 := by
  rcases c.valid with h | ⟨hlow, hhigh⟩
  · exact .inl h
  · exact .inr ⟨hlow, hhigh⟩

theorem units_of_lt {c : Char} (h : c.toNat < 0x10000) : units c = [c.toNat] := by
  rw [units, if_pos h]

theorem lt_of_mem_units {c : Char} {n : Nat} (h : n ∈ units c) : n < 0x10000 := by
  have hc := toNat_char c
  unfold units at h
  split at h
  · simp_all
  · simp only [List.mem_cons, List.not_mem_nil, or_false] at h
    omega

theorem readUnits_escapeUnits {ns us : List Nat} {rest behind : Text} (hns : ∀ n ∈ ns, n < 0x10000)
    (h : readUnits rest = some (us, behind)) :
    readUnits (ns.flatMap escapeUnit ++ rest) = some (ns ++ us, behind) := by
  induction ns with
  | nil => exact h
  | cons n ns ih =>
      obtain ⟨hn, hns⟩ := List.forall_mem_cons.mp hns
      rw [List.flatMap_cons, List.append_assoc]
      exact readUnits_escapeUnit hn (ih hns)

theorem readUnits_short {letter c : Char} {us : List Nat} {rest behind : Text}
    (hletter : letter ≠ 'u') (hc : shortEscape? letter = some c)
    (h : readUnits rest = some (us, behind)) :
    readUnits ('\\' :: letter :: rest) = some (c.toNat :: us, behind) := by
  have hunit (a b c d : Char) (more : Text) :
      letter = 'u' → rest = a :: b :: c :: d :: more → False := fun hu _ => hletter hu
  rw [readUnits, hc, h]
  · rfl
  · exact hunit

theorem readUnits_plain {c : Char} {us : List Nat} {rest behind : Text} (hquote : c ≠ '"')
    (hslash : c ≠ '\\') (hc : 0x20 ≤ c.toNat) (h : readUnits rest = some (us, behind)) :
    readUnits (c :: rest) = some (c.toNat :: us, behind) := by
  rw [readUnits.eq_def]
  split <;> simp_all

theorem readUnits_escape (c : Char) {us : List Nat} {rest behind : Text}
    (h : readUnits rest = some (us, behind)) :
    readUnits (escape c ++ rest) = some (units c ++ us, behind) := by
  have hshort {letter : Char} (hletter : letter ≠ 'u') (hc : shortEscape? letter = some c)
      (hlt : c.toNat < 0x10000) :
        readUnits ('\\' :: letter :: rest) = some (units c ++ us, behind) := by
    rw [units_of_lt hlt]
    exact readUnits_short hletter hc h
  unfold escape
  split_ifs with hquote hslash hline hreturn htab hback hfeed hplain
  · exact hshort (by decide) (by subst hquote; rfl) (by subst hquote; decide)
  · exact hshort (by decide) (by subst hslash; rfl) (by subst hslash; decide)
  · exact hshort (by decide) (by subst hline; rfl) (by subst hline; decide)
  · exact hshort (by decide) (by subst hreturn; rfl) (by subst hreturn; decide)
  · exact hshort (by decide) (by subst htab; rfl) (by subst htab; decide)
  · exact hshort (by decide) (by subst hback; rfl) (by subst hback; decide)
  · exact hshort (by decide) (by subst hfeed; rfl) (by subst hfeed; decide)
  · rw [units_of_lt (by omega)]
    exact readUnits_plain hquote hslash hplain.1 h
  · exact readUnits_escapeUnits (fun _ => lt_of_mem_units) h

theorem readUnits_escaped (t rest : Text) :
    readUnits (t.flatMap escape ++ '"' :: rest) = some (t.flatMap units, rest) := by
  induction t with
  | nil => rfl
  | cons c t ih =>
      rw [List.flatMap_cons, List.append_assoc]
      exact readUnits_escape c ih

theorem ofUnits_cons {unit : Nat} (h : ¬ (0xD800 ≤ unit ∧ unit < 0xE000)) (us : List Nat) :
    ofUnits (unit :: us) = Char.ofNat unit :: ofUnits us := by
  cases us with
  | nil => simp [ofUnits, h]
  | cons low us =>
      rw [ofUnits, if_neg (by omega), if_neg h]

theorem ofUnits_units (c : Char) (us : List Nat) : ofUnits (units c ++ us) = c :: ofUnits us := by
  have hc := toNat_char c
  unfold units
  split
  · next hlt => rw [List.singleton_append, ofUnits_cons (by omega), Char.ofNat_toNat]
  · next hge =>
      have hsum : 0x10000 + (0xD800 + (c.toNat - 0x10000) / 0x400 - 0xD800) * 0x400
          + (0xDC00 + (c.toNat - 0x10000) % 0x400 - 0xDC00) = c.toNat := by omega
      rw [List.cons_append, List.cons_append, List.nil_append, ofUnits, if_pos (by omega), hsum,
        Char.ofNat_toNat]

theorem ofUnits_flatMap_units (t : Text) : ofUnits (t.flatMap units) = t := by
  induction t with
  | nil => rfl
  | cons c t ih => rw [List.flatMap_cons, ofUnits_units, ih]

theorem readQuoted_quote (t rest : Text) :
    readQuoted (t.flatMap escape ++ '"' :: rest) = some (t, rest) := by
  simp [readQuoted, readUnits_escaped, ofUnits_flatMap_units]

/-- What a number may stand before: nothing that would go on with it. -/
def Stops (rest : Text) : Prop :=
  ∀ c ∈ rest.head?, c.isDigit = false ∧ c ≠ '.' ∧ c ≠ 'e' ∧ c ≠ 'E'

theorem isDigit_ofNat (n : Nat) : ∀ c ∈ Text.ofNat n, c.isDigit := fun _ hc =>
  Nat.isDigit_of_mem_toDigits (by decide) (by decide) hc

theorem spanDigits_append {digits rest : Text} (hdigits : ∀ c ∈ digits, c.isDigit)
    (hrest : Stops rest) : spanDigits (digits ++ rest) = (digits, rest) := by
  have hnone : rest.takeWhile Char.isDigit = [] ∧ rest.dropWhile Char.isDigit = rest := by
    cases rest with
    | nil => exact ⟨rfl, rfl⟩
    | cons c rest => simp [(hrest c rfl).1]
  rw [spanDigits, List.span_eq_takeWhile_dropWhile, List.takeWhile_append_of_pos hdigits,
    List.dropWhile_append_of_pos hdigits, hnone.1, hnone.2, List.append_nil]

theorem readMagnitude_ofNat (negative : Bool) (n : Nat) {rest : Text} (hrest : Stops rest) :
    readMagnitude negative (Text.ofNat n ++ rest)
      = some (.whole (if negative then -Int.ofNat n else Int.ofNat n), rest) := by
  have hspan := spanDigits_append (isDigit_ofNat n) hrest
  have hvalue : Nat.ofDigitChars 10 (Text.ofNat n) 0 = n := Nat.ofDigitChars_ten_toDigits
  unfold readMagnitude
  rw [hspan]
  split
  · next hnil => exact absurd (congrArg Prod.fst hnil) Nat.toDigits_ne_nil
  · next heq =>
      obtain ⟨rfl, rfl⟩ := Prod.mk.inj heq
      split
      · next hdot => exact absurd rfl (hrest _ rfl).2.1
      · next he => exact absurd rfl (hrest _ rfl).2.2.1
      · next he => exact absurd rfl (hrest _ rfl).2.2.2
      · rw [hvalue]

theorem dropHead?_of_ne {a c : Char} (h : a ≠ c) (head rest : Text) :
    Text.dropHead? (a :: head) (c :: rest) = none := by
  rw [Text.dropHead?, if_neg h]

theorem readNumber_digit {c : Char} (hc : c.isDigit) (rest : Text) :
    readNumber (c :: rest) = readMagnitude false (c :: rest) := by
  have hI : 'I' ≠ c := by rintro rfl; contradiction
  have hN : 'N' ≠ c := by rintro rfl; contradiction
  have hminus : '-' ≠ c := by rintro rfl; contradiction
  simp only [readNumber, String.reduceToList, dropHead?_of_ne hI, dropHead?_of_ne hN,
    dropHead?_of_ne hminus]
  split
  all_goals simp_all

theorem readNumber_minus {c : Char} (hc : c.isDigit) (rest : Text) :
    readNumber ('-' :: c :: rest) = readMagnitude true (c :: rest) := by
  have hI : 'I' ≠ c := by rintro rfl; contradiction
  simp [readNumber, Text.dropHead?, hI]

theorem exists_ofNat_eq_cons (n : Nat) : ∃ c digits, c.isDigit ∧ Text.ofNat n = c :: digits := by
  cases hn : Text.ofNat n with
  | nil => exact absurd hn Nat.toDigits_ne_nil
  | cons c digits => exact ⟨c, digits, isDigit_ofNat n c (hn ▸ List.mem_cons_self), rfl⟩

theorem readNumber_ofInt (n : Int) {rest : Text} (hrest : Stops rest) :
    readNumber (Text.ofInt n ++ rest) = some (.whole n, rest) := by
  cases n with
  | ofNat n =>
      have hread := readMagnitude_ofNat false n hrest
      obtain ⟨c, digits, hc, hn⟩ := exists_ofNat_eq_cons n
      rw [hn] at hread
      rw [Text.ofInt, hn, List.cons_append, readNumber_digit hc]
      exact hread
  | negSucc n =>
      have hread := readMagnitude_ofNat true (n + 1) hrest
      obtain ⟨c, digits, hc, hn⟩ := exists_ofNat_eq_cons (n + 1)
      rw [hn] at hread
      rw [Text.ofInt, hn, List.cons_append, List.cons_append, readNumber_minus hc]
      exact hread

theorem skipSpace_append {space : Text} (h : ∀ c ∈ space, isSpace c) (rest : Text) :
    skipSpace (space ++ rest) = skipSpace rest :=
  List.dropWhile_append_of_pos h

theorem skipSpace_cons {c : Char} (h : isSpace c = false) (rest : Text) :
    skipSpace (c :: rest) = c :: rest := by
  simp [skipSpace, h]

theorem skipSpace_skipSpace (t : Text) : skipSpace (skipSpace t) = skipSpace t :=
  List.dropWhile_idempotent isSpace t

theorem isSpace_gap (layout : Layout) (depth : Nat) : ∀ c ∈ layout.gap depth, isSpace c := by
  cases layout with
  | compact => simp [Layout.gap]
  | indented =>
      intro c hc
      rcases List.mem_cons.mp hc with rfl | hc
      · rfl
      · rw [List.eq_of_mem_replicate hc]
        rfl

theorem readValue_space {fuel : Nat} {space : Text} (h : ∀ c ∈ space, isSpace c) (t : Text) :
    readValue fuel (space ++ t) = readValue fuel t := by
  cases fuel with
  | zero => rfl
  | succ fuel => rw [readValue, readValue, skipSpace_append h]

theorem readItems_skipSpace (fuel : Nat) (t : Text) :
    readItems fuel (skipSpace t) = readItems fuel t := by
  cases fuel with
  | zero => rfl
  | succ fuel =>
      cases fuel with
      | zero => rfl
      | succ fuel => rw [readItems, readItems, readValue, readValue, skipSpace_skipSpace]

theorem readFields_skipSpace (fuel : Nat) (t : Text) :
    readFields fuel (skipSpace t) = readFields fuel t := by
  cases fuel with
  | zero => rfl
  | succ fuel => rw [readFields, readFields, skipSpace_skipSpace]

theorem exists_ofInt_eq_cons (n : Int) :
    ∃ c t, Text.ofInt n = c :: t ∧ (c.isDigit ∨ c = '-') := by
  cases n with
  | ofNat n =>
      obtain ⟨c, digits, hc, hn⟩ := exists_ofNat_eq_cons n
      exact ⟨c, digits, hn, .inl hc⟩
  | negSucc n => exact ⟨'-', _, rfl, .inr rfl⟩

theorem not_isSpace_of_isDigit {c : Char} (hc : c.isDigit) : isSpace c = false := by
  have hne (a : Char) (ha : a.isDigit = false) : c ≠ a := by
    rintro rfl
    simp [ha] at hc
  simp [isSpace, hne ' ' (by decide), hne '\n' (by decide), hne '\r' (by decide),
    hne '\t' (by decide)]

theorem exists_render_eq_cons (layout : Layout) (depth : Nat) {v : Json} (hv : Whole v) :
    ∃ c t, render layout depth v = c :: t ∧ isSpace c = false ∧ c ≠ ']' := by
  cases v with
  | null => exact ⟨_, _, rfl, rfl, by decide⟩
  | bool b => cases b <;> exact ⟨_, _, rfl, rfl, by decide⟩
  | number n =>
      cases n with
      | real x => exact hv.elim
      | whole n =>
          obtain ⟨c, t, ht, hc⟩ := exists_ofInt_eq_cons n
          refine ⟨c, t, ht, ?_⟩
          rcases hc with hc | rfl
          · exact ⟨not_isSpace_of_isDigit hc, by rintro rfl; contradiction⟩
          · exact ⟨rfl, by decide⟩
  | text t => exact ⟨_, _, rfl, rfl, by decide⟩
  | array items => cases items <;> exact ⟨_, _, rfl, rfl, by decide⟩
  | object fields => cases fields <;> exact ⟨_, _, rfl, rfl, by decide⟩

theorem stops_gap (layout : Layout) (depth : Nat) {c : Char} {rest : Text}
    (h : Stops (c :: rest)) : Stops (layout.gap depth ++ c :: rest) := by
  cases layout with
  | compact => exact h
  | indented => simp [Stops, Layout.gap]

theorem stops_renderItems (layout : Layout) (depth : Nat) (items : List Json) {rest : Text}
    (h : Stops rest) : Stops (renderItems layout depth items ++ rest) := by
  cases items with
  | nil => exact h
  | cons item items => simp [Stops, renderItems]

theorem stops_renderFields (layout : Layout) (depth : Nat) (fields : List (Text × Json))
    {rest : Text} (h : Stops rest) : Stops (renderFields layout depth fields ++ rest) := by
  cases fields with
  | nil => exact h
  | cons field fields => simp [Stops, renderFields]

theorem readValue_number {fuel : Nat} {n : Int} {rest : Text} (hrest : Stops rest) :
    readValue (fuel + 1) (Text.ofInt n ++ rest) = some (.number (.whole n), rest) := by
  obtain ⟨c, t, ht, hc⟩ := exists_ofInt_eq_cons n
  have hread := readNumber_ofInt n hrest
  have hspace : isSpace c = false := hc.elim not_isSpace_of_isDigit (by rintro rfl; rfl)
  rw [ht, List.cons_append] at hread ⊢
  rw [readValue, skipSpace_cons hspace]
  split
  all_goals simp_all

theorem skipSpace_render_ne (layout : Layout) (depth depth' : Nat) {v : Json} (hv : Whole v)
    (rest more : Text) :
    skipSpace (layout.gap depth' ++ (render layout depth v ++ rest)) ≠ ']' :: more := by
  obtain ⟨c, t, ht, hspace, hclose⟩ := exists_render_eq_cons layout depth hv
  rw [skipSpace_append (isSpace_gap _ _), ht, List.cons_append, skipSpace_cons hspace]
  intro h
  exact hclose (List.cons.inj h).1

theorem skipSpace_quote_ne (layout : Layout) (depth : Nat) (name rest more : Text) :
    skipSpace (layout.gap depth ++ (quote name ++ rest)) ≠ '}' :: more := by
  rw [skipSpace_append (isSpace_gap _ _), quote, List.cons_append, List.cons_append,
    skipSpace_cons rfl]
  intro h
  exact absurd (List.cons.inj h).1 (by decide)

theorem readValue_array {fuel : Nat} {t rest : Text} {items : List Json}
    (ht : ∀ more, skipSpace t ≠ ']' :: more) (h : readItems fuel t = some (items, rest)) :
    readValue (fuel + 1) ('[' :: t) = some (.array items, rest) := by
  rw [← readItems_skipSpace] at h
  rw [readValue, skipSpace_cons rfl]
  simp only [h, Option.map_some]

theorem readValue_object {fuel : Nat} {t rest : Text} {fields : List (Text × Json)}
    (ht : ∀ more, skipSpace t ≠ '}' :: more) (h : readFields fuel t = some (fields, rest)) :
    readValue (fuel + 1) ('{' :: t) = some (.object fields, rest) := by
  rw [← readFields_skipSpace] at h
  rw [readValue, skipSpace_cons rfl]
  simp only [h, Option.map_some]

theorem readFields_field {fuel : Nat} {layout : Layout} {depth : Nat} {name t rest : Text}
    {value : Json} (h : readValue fuel t = some (value, rest)) :
    readFields (fuel + 1) (layout.gap depth ++ (quote name ++ (layout.colon ++ t))) =
      match skipSpace rest with
      | '}' :: rest => some ([(name, value)], rest)
      | ',' :: rest =>
        (readFields fuel rest).bind fun (fields, rest) => some ((name, value) :: fields, rest)
      | _ => none := by
  have hquote : quote name ++ (layout.colon ++ t)
      = '"' :: (name.flatMap escape ++ '"' :: (layout.colon ++ t)) := by simp [quote]
  obtain ⟨space, hspace, hcolon⟩ : ∃ space : Text, (∀ c ∈ space, isSpace c) ∧
      layout.colon ++ t = ':' :: (space ++ t) := by
    cases layout with
    | compact => exact ⟨[], by simp, rfl⟩
    | indented => exact ⟨[' '], by simp [isSpace], rfl⟩
  have hvalue : readValue fuel (space ++ t) = some (value, rest) := by
    rw [readValue_space hspace, h]
  rw [readFields, skipSpace_append (isSpace_gap _ _), hquote, skipSpace_cons rfl]
  simp only [readQuoted_quote, hcolon, skipSpace_cons (c := ':') rfl, Option.bind_eq_bind,
    Option.bind_some, hvalue]
  rfl

mutual

/-- The text of a value is read as the value. -/
theorem readValue_render (layout : Layout) (fuel depth : Nat) (v : Json) (rest : Text)
    (hv : Whole v) (hrest : Stops rest) (hfuel : (render layout depth v).length ≤ fuel) :
    readValue fuel (render layout depth v ++ rest) = some (v, rest) := by
  cases fuel with
  | zero =>
      obtain ⟨c, t, ht, -⟩ := exists_render_eq_cons layout depth hv
      simp [ht] at hfuel
  | succ fuel =>
      cases v with
      | null => rfl
      | bool b => cases b <;> rfl
      | number n =>
          cases n with
          | real x => exact hv.elim
          | whole n => exact readValue_number hrest
      | text t =>
          have hquote : render layout depth (.text t) ++ rest
              = '"' :: (t.flatMap escape ++ '"' :: rest) := by simp [render, quote]
          rw [hquote, readValue, skipSpace_cons rfl]
          simp [readQuoted_quote]
      | array items =>
          cases items with
          | nil => rfl
          | cons item items =>
              have htext : render layout depth (.array (item :: items)) ++ rest
                  = '[' :: (layout.gap (depth + 1) ++ (render layout (depth + 1) item
                    ++ (renderItems layout (depth + 1) items
                      ++ (layout.gap depth ++ ']' :: rest)))) := by simp [render]
              simp only [render, List.length_append, List.length_cons, List.length_nil] at hfuel
              rw [htext]
              exact readValue_array (fun more => skipSpace_render_ne _ _ _ hv.1 _ more)
                (readItems_render layout fuel depth item items rest hv.1 hv.2 (by omega))
      | object fields =>
          cases fields with
          | nil => rfl
          | cons field fields =>
              obtain ⟨name, value⟩ := field
              have htext : render layout depth (.object ((name, value) :: fields)) ++ rest
                  = '{' :: (layout.gap (depth + 1) ++ (quote name ++ (layout.colon
                    ++ (render layout (depth + 1) value ++ (renderFields layout (depth + 1) fields
                      ++ (layout.gap depth ++ '}' :: rest)))))) := by simp [render]
              simp only [render, List.length_append, List.length_cons, List.length_nil] at hfuel
              rw [htext]
              exact readValue_object (fun more => skipSpace_quote_ne _ _ _ _ more)
                (readFields_render layout fuel depth name value fields rest hv.1 hv.2 (by omega))

theorem readItems_render (layout : Layout) (fuel depth : Nat) (item : Json) (items : List Json)
    (rest : Text) (hitem : Whole item) (hitems : WholeItems items)
    (hfuel : (render layout (depth + 1) item).length
      + (renderItems layout (depth + 1) items).length < fuel) :
    readItems fuel (layout.gap (depth + 1) ++ (render layout (depth + 1) item
      ++ (renderItems layout (depth + 1) items ++ (layout.gap depth ++ ']' :: rest))))
        = some (item :: items, rest) := by
  obtain ⟨fuel, rfl⟩ := Nat.exists_eq_succ_of_ne_zero (Nat.ne_zero_of_lt hfuel)
  have hread := readValue_render layout fuel (depth + 1) item
    (renderItems layout (depth + 1) items ++ (layout.gap depth ++ ']' :: rest)) hitem
    (stops_renderItems _ _ _ (stops_gap _ _ (by simp [Stops]))) (by omega)
  rw [readItems, readValue_space (isSpace_gap _ _), hread]
  cases items with
  | nil => simp [renderItems, skipSpace_append (isSpace_gap layout depth),
    skipSpace_cons (c := ']') rfl]
  | cons next items =>
      simp only [renderItems, List.length_append, List.length_cons] at hfuel
      have hmore := readItems_render layout fuel depth next items rest hitems.1 hitems.2 (by omega)
      simp [renderItems, skipSpace_cons (c := ',') rfl, hmore]

theorem readFields_render (layout : Layout) (fuel depth : Nat) (name : Text) (value : Json)
    (fields : List (Text × Json)) (rest : Text) (hvalue : Whole value)
    (hfields : WholeFields fields)
    (hfuel : (render layout (depth + 1) value).length
      + (renderFields layout (depth + 1) fields).length < fuel) :
    readFields fuel (layout.gap (depth + 1) ++ (quote name ++ (layout.colon
      ++ (render layout (depth + 1) value ++ (renderFields layout (depth + 1) fields
        ++ (layout.gap depth ++ '}' :: rest))))))
        = some ((name, value) :: fields, rest) := by
  obtain ⟨fuel, rfl⟩ := Nat.exists_eq_succ_of_ne_zero (Nat.ne_zero_of_lt hfuel)
  have hread := readValue_render layout fuel (depth + 1) value
    (renderFields layout (depth + 1) fields ++ (layout.gap depth ++ '}' :: rest)) hvalue
    (stops_renderFields _ _ _ (stops_gap _ _ (by simp [Stops]))) (by omega)
  rw [Nat.succ_eq_add_one, readFields_field hread]
  cases fields with
  | nil => simp [renderFields, skipSpace_append (isSpace_gap layout depth),
    skipSpace_cons (c := '}') rfl]
  | cons next fields =>
      obtain ⟨nextName, nextValue⟩ := next
      simp only [renderFields, List.length_append, List.length_cons] at hfuel
      have hmore := readFields_render layout fuel depth nextName nextValue fields rest hfields.1
        hfields.2 (by omega)
      simp [renderFields, skipSpace_cons (c := ',') rfl, hmore]

end

theorem read?_render (layout : Layout) {v : Json} (hv : Whole v) :
    read? (render layout 0 v) = some v := by
  have hread := readValue_render layout ((render layout 0 v).length + 1) 0 v [] hv (by simp [Stops])
    (Nat.le_succ _)
  rw [List.append_nil] at hread
  rw [read?, hread]
  rfl

/-- All characters are printable ASCII. -/
def Printable (t : Text) : Prop := ∀ c ∈ t, 0x20 ≤ c.toNat ∧ c.toNat ≤ 0x7E

@[simp] theorem printable_nil : Printable [] := List.forall_mem_nil _

@[simp] theorem printable_cons {c : Char} {t : Text} :
    Printable (c :: t) ↔ (0x20 ≤ c.toNat ∧ c.toNat ≤ 0x7E) ∧ Printable t :=
  List.forall_mem_cons

@[simp] theorem printable_append {s t : Text} : Printable (s ++ t) ↔ Printable s ∧ Printable t :=
  List.forall_mem_append

theorem printable_flatMap {α : Type} {f : α → Text} {items : List α}
    (h : ∀ item ∈ items, Printable (f item)) : Printable (items.flatMap f) := by
  intro c hc
  obtain ⟨item, hitem, hc⟩ := List.mem_flatMap.mp hc
  exact h item hitem c hc

theorem printable_escapeUnit (n : Nat) : Printable (escapeUnit n) := by
  have hdigit (n : Nat) : 0x20 ≤ (hexDigit (n % 16)).toNat ∧ (hexDigit (n % 16)).toNat ≤ 0x7E := by
    have hall : ∀ n < 16, 0x20 ≤ (hexDigit n).toNat ∧ (hexDigit n).toNat ≤ 0x7E := by decide
    exact hall _ (Nat.mod_lt n (by decide))
  simp [escapeUnit, hdigit]

theorem printable_escape (c : Char) : Printable (escape c) := by
  unfold escape
  split_ifs with _ _ _ _ _ _ _ hplain
  · simp
  · simp
  · simp
  · simp
  · simp
  · simp
  · simp
  · simpa using hplain
  · exact printable_flatMap fun n _ => printable_escapeUnit n

theorem printable_quote (t : Text) : Printable (quote t) := by
  simp [quote, printable_flatMap fun c _ => printable_escape c]

theorem printable_ofNat (n : Nat) : Printable (Text.ofNat n) := by
  intro c hc
  have h := isDigit_ofNat n c hc
  simp only [Char.isDigit, Bool.and_eq_true, decide_eq_true_eq, UInt32.le_iff_toNat_le] at h
  exact ⟨Nat.le_trans (by decide) h.1, Nat.le_trans h.2 (by decide)⟩

theorem printable_ofInt (n : Int) : Printable (Text.ofInt n) := by
  cases n with
  | ofNat n => exact printable_ofNat n
  | negSucc n => simp [Text.ofInt, printable_ofNat]

mutual

theorem printable_render (depth : Nat) (v : Json) (hv : Whole v) :
    Printable (render .compact depth v) := by
  cases v with
  | null => simp [render]
  | bool b => cases b <;> simp [render]
  | number n =>
      cases n with
      | real x => exact hv.elim
      | whole n => exact printable_ofInt n
  | text t => exact printable_quote t
  | array items =>
      cases items with
      | nil => simp [render]
      | cons item items =>
          simp [render, Layout.gap, printable_render (depth + 1) item hv.1,
            printable_renderItems (depth + 1) items hv.2]
  | object fields =>
      cases fields with
      | nil => simp [render]
      | cons field fields =>
          simp [render, Layout.gap, Layout.colon, printable_quote,
            printable_render (depth + 1) field.2 hv.1,
            printable_renderFields (depth + 1) fields hv.2]

theorem printable_renderItems (depth : Nat) (items : List Json) (hitems : WholeItems items) :
    Printable (renderItems .compact depth items) := by
  cases items with
  | nil => exact printable_nil
  | cons item items =>
      simp [renderItems, Layout.gap, printable_render depth item hitems.1,
        printable_renderItems depth items hitems.2]

theorem printable_renderFields (depth : Nat) (fields : List (Text × Json))
    (hfields : WholeFields fields) : Printable (renderFields .compact depth fields) := by
  cases fields with
  | nil => exact printable_nil
  | cons field fields =>
      simp [renderFields, Layout.gap, Layout.colon, printable_quote,
        printable_render depth field.2 hfields.1, printable_renderFields depth fields hfields.2]

end

end Recheck.Proofs.JsonText
