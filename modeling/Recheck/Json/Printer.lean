import Recheck.Decimal.Shortest
import Recheck.Json

/-!
# Writing JSON

The text of a value holds printable ASCII and, in the indented layout, line feeds. All other
characters are escaped by their UTF-16 units.
-/

namespace Recheck.Json

/-- Where white space goes. -/
inductive Layout
  /-- No white space at all. -/
  | compact
  /-- Every item on a line of its own, two spaces deeper than what holds it. -/
  | indented
  deriving DecidableEq, Repr

/-- What stands before an item at a depth. -/
def Layout.gap : Layout → Nat → Text
  | compact, _ => []
  | indented, depth => '\n' :: List.replicate (2 * depth) ' '

/-- What stands between a name and its value. -/
def Layout.colon : Layout → Text
  | compact => [':']
  | indented => [':', ' ']

/-- The lower-case hexadecimal digit of a number below sixteen. -/
def hexDigit (n : Nat) : Char := Nat.digitChar n

/-- A UTF-16 unit as an escape. -/
def escapeUnit (n : Nat) : Text :=
  ['\\', 'u', hexDigit (n / 4096 % 16), hexDigit (n / 256 % 16), hexDigit (n / 16 % 16),
    hexDigit (n % 16)]

def units (c : Char) : List Nat :=
  if c.toNat < 0x10000 then [c.toNat]
  else [0xD800 + (c.toNat - 0x10000) / 0x400, 0xDC00 + (c.toNat - 0x10000) % 0x400]

/-- A character as it stands between quotes. -/
def escape (c : Char) : Text :=
  if c = '"' then ['\\', '"']
  else if c = '\\' then ['\\', '\\']
  else if c = '\n' then ['\\', 'n']
  else if c = '\r' then ['\\', 'r']
  else if c = '\t' then ['\\', 't']
  else if c = '\x08' then ['\\', 'b']
  else if c = '\x0c' then ['\\', 'f']
  else if 0x20 ≤ c.toNat ∧ c.toNat ≤ 0x7E then [c]
  else (units c).flatMap escapeUnit

def quote (t : Text) : Text := '"' :: t.flatMap escape ++ ['"']

/-- The text of a number; words stand for the doubles that no digits spell. -/
def numeral : Number → Text
  | .whole n => Text.ofInt n
  | .real x =>
    if x.isNaN then "NaN"
    else if x.isInf then if x < 0 then "-Infinity" else "Infinity"
    else Decimal.text x

mutual

/-- The text of a value that stands at a depth. -/
def render (layout : Layout) (depth : Nat) : Json → Text
  | null => ['n', 'u', 'l', 'l']
  | bool true => ['t', 'r', 'u', 'e']
  | bool false => ['f', 'a', 'l', 's', 'e']
  | number n => numeral n
  | text t => quote t
  | array [] => ['[', ']']
  | array (item :: items) =>
    '[' :: layout.gap (depth + 1) ++ render layout (depth + 1) item
      ++ renderItems layout (depth + 1) items ++ layout.gap depth ++ [']']
  | object [] => ['{', '}']
  | object ((name, value) :: fields) =>
    '{' :: layout.gap (depth + 1) ++ quote name ++ layout.colon
      ++ render layout (depth + 1) value ++ renderFields layout (depth + 1) fields
      ++ layout.gap depth ++ ['}']

/-- The items after the first. -/
def renderItems (layout : Layout) (depth : Nat) : List Json → Text
  | [] => []
  | item :: items =>
    ',' :: layout.gap depth ++ render layout depth item ++ renderItems layout depth items

/-- The fields after the first. -/
def renderFields (layout : Layout) (depth : Nat) : List (Text × Json) → Text
  | [] => []
  | (name, value) :: fields =>
    ',' :: layout.gap depth ++ quote name ++ layout.colon ++ render layout depth value
      ++ renderFields layout depth fields

end

/-- The text of a value on one line, without white space. -/
def compactText (value : Json) : Text := render .compact 0 value

/-- The text of a value with each item on its own line. -/
def indentedText (value : Json) : Text := render .indented 0 value

end Recheck.Json
