import Recheck.Decimal
import Recheck.Text.Blank
import Recheck.Text.Digit

/-!
# Numerals

Texts that spell numbers, in the lenient way in which data may give them: with white space
around them, with low lines between digits, and whole numbers with zeros in front and behind
a point.
-/

namespace Recheck.Decimal

/-- Removes white space at both ends; information separators are not white space here. -/
def strip (t : Text) : Text :=
  Text.trimBoth (fun c => Text.isBlank c && !(0x1C ≤ c.toNat && c.toNat ≤ 0x1F)) t

/-- The text without low lines, unless one of them does not stand between other characters. -/
def withoutLowLines? (t : Text) : Option Text :=
  if t.head? == some '_' || t.getLast? == some '_' || Text.has ['_', '_'] t then none
  else some (t.filter (· ≠ '_'))

/-- The text from the first digit other than zero or the first minus sign on, where only zeros
and low lines stand before it. The last of those stays before a point and at the end. -/
def dropZeros? : Text → Option Text
  | '0' :: rest =>
    let after := rest.dropWhile fun c => c == '0' || c == '_'
    let last := (('0' :: rest).take (rest.length + 1 - after.length)).getLast?.toList
    match after with
    | [] => some last
    | c :: _ =>
      if c == '.' then some (last ++ after)
      else if c.isDigit || c == '-' then some after else none
  | c :: rest => if c.isDigit || c == '-' then some (c :: rest) else none
  | [] => none

/-- The text without a plus sign in front; no other sign may follow that one. -/
def afterPlus? : Text → Option Text
  | '+' :: '-' :: _ => none
  | '+' :: t => some t
  | t => some t

/-- The number before a decimal point that zeros, and only zeros, follow. -/
def dropPlaces (t : Text) : Text :=
  match t.span (· ≠ '.') with
  | (whole, '.' :: '0' :: places) => if places.all (· == '0') then whole else t
  | _ => t

inductive WholeFlaw
  | malformed
  /-- It has more characters than are read. -/
  | tooLong
  deriving DecidableEq, Repr

/-- The number that digits spell, with no zero in front of others. Digits beyond those that are
read are a flaw whatever follows them. -/
def plainDigits (t : Text) : Except WholeFlaw Int :=
  let (digits, rest) := t.span Char.isDigit
  if digits = [] ∨ (digits.head? = some '0' ∧ digits ≠ ['0']) then .error .malformed
  else if Text.maxDigits < digits.length then .error .tooLong
  else if rest ≠ [] then .error .malformed
  else .ok (Int.ofNat (Nat.ofDigitChars 10 digits 0))

/-- The whole number that a text spells as it stands: digits with or without a minus sign. -/
def plainWhole : Text → Except WholeFlaw Int
  | '-' :: t => (plainDigits t).map (- ·)
  | t => plainDigits t

/-- Digits without zeros in front, a fraction of zeros, and low lines between them. -/
def tidyDigits? (t : Text) : Option Text :=
  (dropZeros? t).bind fun t => withoutLowLines? (dropPlaces t)

/-- A numeral without white space around it, and without what a plain one does not have. -/
def tidy? (t : Text) : Option Text :=
  (afterPlus? (strip t)).bind fun
    | '-' :: t => (tidyDigits? t).map ('-' :: ·)
    | t => tidyDigits? t

/-- The whole number that a text spells, as it stands or else made plain: with white space around
it, a sign, zeros in front, low lines between digits, and a fraction of zeros. A minus sign may
also follow zeros. Only a text as it stands is called too long. -/
def wholeOf (t : Text) : Except WholeFlaw Int :=
  match plainWhole t with
  | .error .malformed =>
    match (tidy? t).map plainWhole with
    | some (.ok n) => .ok n
    | _ => .error .malformed
  | read => read

/-- The digits at the start of a text as a number with the count of them, and the rest. -/
def digitsHere (t : Text) : Nat × Nat × Text :=
  let (digits, rest) := t.span Char.isDigit
  (Nat.ofDigitChars 10 digits 0, digits.length, rest)

/-- The exponent that a text is, or zero for no text. -/
def exponentText? : Text → Option Int
  | [] => some 0
  | c :: t =>
    if c = 'e' ∨ c = 'E' then
      let (negative, t) := match t with
        | '-' :: t => (true, t)
        | '+' :: t => (false, t)
        | t => (false, t)
      match digitsHere t with
      | (n, count, []) =>
        if count = 0 then none else some (if negative then -Int.ofNat n else Int.ofNat n)
      | _ => none
    else none

/-- The number that a text without a sign spells: digits with a point among or beside them and
an exponent, or a word for infinity or for no number. -/
def magnitudeText? (t : Text) : Option Float :=
  let word := t.map Char.toLower
  if word = "inf" ∨ word = "infinity" then some (1.0 / 0.0)
  else if word = "nan" then some (0.0 / 0.0)
  else
    let (_, wholeCount, rest) := digitsHere t
    let (places, rest) := match rest with
      | '.' :: rest => rest.span Char.isDigit
      | rest => ([], rest)
    if wholeCount + places.length = 0 then none
    else
      (exponentText? rest).map fun exponent =>
        let digits := Nat.ofDigitChars 10 (t.take wholeCount ++ places) 0
        Decimal.nearest digits (exponent - places.length)

/-- The number that a text spells, with or without a sign. -/
def plainRealText? : Text → Option Float
  | '-' :: t => (magnitudeText? t).map (- ·)
  | '+' :: t => magnitudeText? t
  | t => magnitudeText? t

/-- The number that a text spells, with white space around it or else with low lines between
its characters. -/
def realOf? (t : Text) : Option Float :=
  (plainRealText? (strip t)).or ((withoutLowLines? t).bind plainRealText?)

end Recheck.Decimal
