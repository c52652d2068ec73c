import Recheck.Json

/-!
# Reading JSON

A reader of the whole format: any white space between tokens, every escape, numbers with a
fraction or an exponent. Words stand for the doubles that no digits spell. Fields keep their
order.
-/

namespace Recheck.Json

def isSpace (c : Char) : Bool := c == ' ' || c == '\n' || c == '\r' || c == '\t'

def skipSpace (t : Text) : Text := t.dropWhile isSpace

def hexValue? (c : Char) : Option Nat :=
  if '0' ≤ c ∧ c ≤ '9' then some (c.toNat - 48)
  else if 'a' ≤ c ∧ c ≤ 'f' then some (c.toNat - 87)
  else if 'A' ≤ c ∧ c ≤ 'F' then some (c.toNat - 55)
  else none

/-- The number that four hexadecimal digits spell. -/
def unit? (a b c d : Char) : Option Nat := do
  return 4096 * (← hexValue? a) + 256 * (← hexValue? b) + 16 * (← hexValue? c) + (← hexValue? d)

/-- The character that a backslash and a letter stand for. -/
def shortEscape? (c : Char) : Option Char :=
  if c = '"' ∨ c = '\\' ∨ c = '/' then some c
  else if c = 'n' then some '\n'
  else if c = 'r' then some '\r'
  else if c = 't' then some '\t'
  else if c = 'b' then some '\x08'
  else if c = 'f' then some '\x0c'
  else none

/-- The code points and UTF-16 units up to the closing quote, and the text behind it. -/
def readUnits : Text → Option (List Nat × Text)
  | [] => none
  | '"' :: rest => some ([], rest)
  | '\\' :: 'u' :: a :: b :: c :: d :: rest => do
    let unit ← unit? a b c d
    let (units, rest) ← readUnits rest
    return (unit :: units, rest)
  | '\\' :: c :: rest => do
    let c ← shortEscape? c
    let (units, rest) ← readUnits rest
    return (c.toNat :: units, rest)
  | '\\' :: [] => none
  | c :: rest =>
    if c.toNat < 0x20 then none
    else do
      let (units, rest) ← readUnits rest
      return (c.toNat :: units, rest)

/-- The characters that code points and pairs of surrogates spell; a surrogate without its
partner becomes the replacement character. -/
def ofUnits : List Nat → Text
  | [] => []
  | high :: low :: rest =>
    if 0xD800 ≤ high ∧ high < 0xDC00 ∧ 0xDC00 ≤ low ∧ low < 0xE000 then
      Char.ofNat (0x10000 + (high - 0xD800) * 0x400 + (low - 0xDC00)) :: ofUnits rest
    else
      (if 0xD800 ≤ high ∧ high < 0xE000 then '\uFFFD' else Char.ofNat high)
        :: ofUnits (low :: rest)
  | [unit] => [if 0xD800 ≤ unit ∧ unit < 0xE000 then '\uFFFD' else Char.ofNat unit]

/-- The text up to the closing quote, and what stands behind it. -/
def readQuoted (t : Text) : Option (Text × Text) :=
  (readUnits t).map fun (units, rest) => (ofUnits units, rest)

def spanDigits (t : Text) : Text × Text := t.span Char.isDigit

/-- An exponent with its letter, or nothing. -/
def readExponent : Text → Option (Int × Text)
  | 'e' :: t | 'E' :: t =>
    let (negative, t) := match t with
      | '-' :: t => (true, t)
      | '+' :: t => (false, t)
      | t => (false, t)
    match spanDigits t with
    | ([], _) => none
    | (digits, rest) =>
      let size := Int.ofNat (Nat.ofDigitChars 10 digits 0)
      some (if negative then -size else size, rest)
  | t => some (0, t)

/-- The digits behind a decimal point, or nothing. -/
def readFraction : Text → Option (Text × Text)
  | '.' :: t =>
    match spanDigits t with
    | ([], _) => none
    | (digits, rest) => some (digits, rest)
  | t => some ([], t)

/-- A number without its sign; one with a point or an exponent is a double. -/
def readMagnitude (negative : Bool) (t : Text) : Option (Number × Text) :=
  match spanDigits t with
  | ([], _) => none
  | (whole, rest) =>
    match rest with
    | '.' :: _ | 'e' :: _ | 'E' :: _ => do
      let (places, rest) ← readFraction rest
      let (exponent, rest) ← readExponent rest
      let digits := Nat.ofDigitChars 10 (whole ++ places) 0
      let size := Decimal.nearest digits (exponent - Int.ofNat places.length)
      return (.real (if negative then -size else size), rest)
    | rest =>
      let size := Int.ofNat (Nat.ofDigitChars 10 whole 0)
      some (.whole (if negative then -size else size), rest)

def readNumber (t : Text) : Option (Number × Text) :=
  match Text.dropHead? "Infinity" t, Text.dropHead? "-Infinity" t, Text.dropHead? "NaN" t, t with
  | some rest, _, _, _ => some (.real (1.0 / 0.0), rest)
  | _, some rest, _, _ => some (.real (-1.0 / 0.0), rest)
  | _, _, some rest, _ => some (.real (0.0 / 0.0), rest)
  | _, _, _, '-' :: t => readMagnitude true t
  | _, _, _, t => readMagnitude false t

mutual

/-- A value, and the text behind it; `fuel` bounds the number of values. -/
def readValue : Nat → Text → Option (Json × Text)
  | 0, _ => none
  | fuel + 1, t =>
    match skipSpace t with
    | 'n' :: 'u' :: 'l' :: 'l' :: rest => some (null, rest)
    | 't' :: 'r' :: 'u' :: 'e' :: rest => some (bool true, rest)
    | 'f' :: 'a' :: 'l' :: 's' :: 'e' :: rest => some (bool false, rest)
    | '"' :: rest => (readQuoted rest).map fun (t, rest) => (text t, rest)
    | '[' :: rest =>
      match skipSpace rest with
      | ']' :: rest => some (array [], rest)
      | rest => (readItems fuel rest).map fun (items, rest) => (array items, rest)
    | '{' :: rest =>
      match skipSpace rest with
      | '}' :: rest => some (object [], rest)
      | rest => (readFields fuel rest).map fun (fields, rest) => (object fields, rest)
    | rest => (readNumber rest).map fun (n, rest) => (number n, rest)

/-- The items of an array that is not empty, and the text behind its bracket. -/
def readItems : Nat → Text → Option (List Json × Text)
  | 0, _ => none
  | fuel + 1, t => do
    let (item, rest) ← readValue fuel t
    match skipSpace rest with
    | ']' :: rest => return ([item], rest)
    | ',' :: rest => do
      let (items, rest) ← readItems fuel rest
      return (item :: items, rest)
    | _ => none

/-- The fields of an object that is not empty, and the text behind its brace. -/
def readFields : Nat → Text → Option (List (Text × Json) × Text)
  | 0, _ => none
  | fuel + 1, t =>
    match skipSpace t with
    | '"' :: rest => do
      let (name, rest) ← readQuoted rest
      match skipSpace rest with
      | ':' :: rest => do
        let (value, rest) ← readValue fuel rest
        match skipSpace rest with
        | '}' :: rest => return ([(name, value)], rest)
        | ',' :: rest => do
          let (fields, rest) ← readFields fuel rest
          return ((name, value) :: fields, rest)
        | _ => none
      | _ => none
    | _ => none

end

/-- The value that the whole text spells. -/
def read? (t : Text) : Option Json :=
  match readValue (t.length + 1) t with
  | some (value, rest) => if (skipSpace rest).isEmpty then some value else none
  | none => none

end Recheck.Json
