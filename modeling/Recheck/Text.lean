/-!
# Texts

A text is a list of characters. The operations of this module know no character
class: they cut, join and compare. Lone surrogates are no characters, so names and documents
that hold some have no text.
-/

namespace Recheck

/-- A text is its list of characters, so facts about lists are facts about texts. -/
abbrev Text := List Char

instance : Coe String Text := ⟨String.toList⟩

namespace Text

def ofNat (n : Nat) : Text := Nat.toDigits 10 n

/-- A minus sign for a negative number, then its decimal digits. -/
def ofInt : Int → Text
  | .ofNat n => ofNat n
  | .negSucc n => '-' :: ofNat (n + 1)

/-- The lines cut at each line feed; there is always at least one. -/
def lines (t : Text) : List Text := List.splitOn '\n' t

/-- The text without the trailing characters that satisfy `p`. -/
def dropTrailing (p : Char → Bool) (t : Text) : Text := (t.reverse.dropWhile p).reverse

/-- The text without the leading and the trailing characters that satisfy `p`. -/
def trimBoth (p : Char → Bool) (t : Text) : Text := dropTrailing p (t.dropWhile p)

/-- Whether `part` stands somewhere in the text. -/
def has (part : Text) : Text → Bool
  | [] => part.isEmpty
  | c :: rest => part.isPrefixOf (c :: rest) || has part rest

/-- The rest of the text after `head`, when the text starts with it. -/
def dropHead? : Text → Text → Option Text
  | [], t => some t
  | _ :: _, [] => none
  | a :: head, c :: rest => if a = c then dropHead? head rest else none

/-- Whether the first text comes before the second, by code points. -/
def before : Text → Text → Bool
  | [], [] => false
  | [], _ :: _ => true
  | _ :: _, [] => false
  | a :: s, b :: t => if a = b then before s t else a.toNat < b.toNat

theorem dropHead?_append (head rest : Text) : dropHead? head (head ++ rest) = some rest := by
  induction head with
  | nil => simp [dropHead?]
  | cons a head ih => simp [dropHead?, ih]

theorem eq_append_of_dropHead? {head t rest : Text} (h : dropHead? head t = some rest) :
    t = head ++ rest := by
  induction head generalizing t with
  | nil => simpa [dropHead?] using h
  | cons a head ih =>
    cases t with
    | nil => simp [dropHead?] at h
    | cons c t =>
      simp only [dropHead?] at h
      split at h
      · next hc => simp [hc, ih h]
      · simp at h

end Text

end Recheck
