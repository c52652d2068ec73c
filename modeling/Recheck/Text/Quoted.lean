import Recheck.Text.Printable

/-!
# Quoted texts

A text between quotes, so that its ends can be seen, on one line and in printable characters
only.
-/

namespace Recheck.Text

/-- The quote that a text stands between: the double one where the text holds the single one and
no double one, else the single one. -/
def quoteMark (t : Text) : Char := if t.contains '\'' && !t.contains '"' then '"' else '\''

/-- The last hexadecimal digits of a number, so many as are asked for. -/
def hexDigits : Nat → Nat → Text
  | 0, _ => []
  | count + 1, n => hexDigits count (n / 16) ++ [Nat.digitChar (n % 16)]

/-- A code point as an escape, in two, four or eight digits. -/
def escapeCode (n : Nat) : Text :=
  if n < 0x100 then '\\' :: 'x' :: hexDigits 2 n
  else if n < 0x10000 then '\\' :: 'u' :: hexDigits 4 n
  else '\\' :: 'U' :: hexDigits 8 n

/-- A character as it stands between quotes. -/
def escapeQuoted (mark c : Char) : Text :=
  if c = mark ∨ c = '\\' then ['\\', c]
  else if c = '\t' then ['\\', 't']
  else if c = '\n' then ['\\', 'n']
  else if c = '\r' then ['\\', 'r']
  else if isPrintable c then [c]
  else escapeCode c.toNat

def quoted (t : Text) : Text :=
  quoteMark t :: t.flatMap (escapeQuoted (quoteMark t)) ++ [quoteMark t]

/-- Texts between quotes in a row between brackets; a comma follows one that is alone. -/
def quotedRow : List Text → Text
  | [t] => ['('] ++ quoted t ++ [',', ')']
  | ts => ['('] ++ List.intercalate [',', ' '] (ts.map quoted) ++ [')']

end Recheck.Text
