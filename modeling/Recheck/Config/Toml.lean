import Recheck.Datum
import Recheck.Text.Digit

/-!
# TOML documents

A reader of TOML 1.0. A document is read statement by statement into one table; beside the table
it keeps which names must not be opened or extended again.

Every reading function takes the text from where it stands and gives a value with the rest.
-/

namespace Recheck.Toml

inductive Flaw
  | malformed
  /-- It spells a number with too many digits. -/
  | tooManyDigits (count : Nat)
  deriving DecidableEq, Repr

/-- A refusal. -/
def refuse {α : Type} : Except Flaw α := .error .malformed

def isSpace (c : Char) : Bool := c == ' ' || c == '\t'

def isSpaceOrNewline (c : Char) : Bool := isSpace c || c == '\n'

/-- Control characters that may not stand in comments and texts. -/
def isForbidden (c : Char) : Bool := (c.toNat < 0x20 && c != '\t') || c.toNat == 0x7F

def isBareKeyChar (c : Char) : Bool := c.isAlphanum || c == '-' || c == '_'

def skipSpace (t : Text) : Text := t.dropWhile isSpace

/-- The text after a comment, if one starts here. -/
def skipComment (t : Text) : Except Flaw Text :=
  match t with
  | '#' :: t =>
    let (comment, rest) := t.span (· ≠ '\n')
    if comment.any isForbidden then refuse else .ok rest
  | t => .ok t

/-- The text after white space and comments on any number of lines. -/
def skipBetweenItems : Nat → Text → Except Flaw Text
  | 0, t => .ok t
  | fuel + 1, t => do
    let t := t.dropWhile isSpaceOrNewline
    match t with
    | '#' :: _ => skipBetweenItems fuel (← skipComment t)
    | t => .ok t

def hexValue? (c : Char) : Option Nat :=
  if '0' ≤ c ∧ c ≤ '9' then some (c.toNat - 48)
  else if 'a' ≤ c ∧ c ≤ 'f' then some (c.toNat - 87)
  else if 'A' ≤ c ∧ c ≤ 'F' then some (c.toNat - 55)
  else none

/-- The character whose code point is spelled with a number of hexadecimal digits. -/
def hexChar (count : Nat) (t : Text) : Except Flaw (Char × Text) :=
  let digits := t.take count
  match digits.mapM hexValue? with
  | none => refuse
  | some values =>
    let code := values.foldl (fun n v => 16 * n + v) 0
    if digits.length = count ∧ code.isValidChar then .ok (Char.ofNat code, t.drop count)
    else refuse

def escaped? (c : Char) : Option Char :=
  match c with
  | 'b' => some '\x08'
  | 't' => some '\t'
  | 'n' => some '\n'
  | 'f' => some '\x0c'
  | 'r' => some '\r'
  | '"' => some '"'
  | '\\' => some '\\'
  | _ => none

/-- The text after a backslash that joins lines: white space up to a newline, then all white
space. -/
def joinLines (t : Text) : Except Flaw Text :=
  match skipSpace t with
  | [] => .ok []
  | '\n' :: t => .ok (t.dropWhile isSpaceOrNewline)
  | _ => refuse

/-- What stands for an escape, after its backslash. -/
def escape (multiline : Bool) : Text → Except Flaw (Text × Text)
  | [] => refuse
  | 'u' :: t => (hexChar 4 t).map fun (c, t) => ([c], t)
  | 'U' :: t => (hexChar 8 t).map fun (c, t) => ([c], t)
  | c :: t =>
    match escaped? c with
    | some e => .ok ([e], t)
    | none =>
      if multiline && isSpaceOrNewline c then (joinLines (c :: t)).map ([], ·) else refuse

/-- The characters up to a closing double quote, or three of them. -/
def basicBody (multiline : Bool) : Nat → Text → Except Flaw (Text × Text)
  | 0, _ | _, [] => refuse
  | fuel + 1, '\\' :: t => do
    let (c, t) ← escape multiline t
    let (body, t) ← basicBody multiline fuel t
    return (c ++ body, t)
  | fuel + 1, '"' :: t =>
    if multiline then
      match t with
      | '"' :: '"' :: t => .ok ([], t)
      | t => (basicBody multiline fuel t).map fun (body, t) => ('"' :: body, t)
    else .ok ([], t)
  | fuel + 1, c :: t =>
    if isForbidden c && !(multiline && c == '\n') then refuse
    else (basicBody multiline fuel t).map fun (body, t) => (c :: body, t)

/-- The characters up to a closing single quote, or three of them. -/
def literalBody (multiline : Bool) : Text → Except Flaw (Text × Text)
  | [] => refuse
  | '\'' :: t =>
    if multiline then
      match t with
      | '\'' :: '\'' :: t => .ok ([], t)
      | t => (literalBody multiline t).map fun (body, t) => ('\'' :: body, t)
    else .ok ([], t)
  | c :: t =>
    if isForbidden c && !(multiline && c == '\n') then refuse
    else (literalBody multiline t).map fun (body, t) => (c :: body, t)

/-- A text over several lines, after its opening quotes: one newline at its start does not
count, and up to two quotes may stand before the closing ones. -/
def multilineText (quote : Char) (t : Text) : Except Flaw (Text × Text) := do
  let t := match t with
    | '\n' :: t => t
    | t => t
  let (body, t) ← if quote = '"' then basicBody true (t.length + 1) t else literalBody true t
  let more := (t.take 2).takeWhile (· == quote)
  return (body ++ more, t.drop more.length)

/-- A text on one line, after its opening quote. -/
def lineText (quote : Char) (t : Text) : Except Flaw (Text × Text) :=
  if quote = '"' then basicBody false (t.length + 1) t else literalBody false t

def keyPart : Text → Except Flaw (Text × Text)
  | [] => refuse
  | c :: t =>
    if isBareKeyChar c then .ok ((c :: t).span isBareKeyChar)
    else if c = '"' ∨ c = '\'' then lineText c t
    else refuse

/-- A key: parts with points between them. -/
def key : Nat → Text → Except Flaw (List Text × Text)
  | 0, _ => refuse
  | fuel + 1, t => do
    let (part, t) ← keyPart t
    match skipSpace t with
    | '.' :: t => do
      let (parts, t) ← key fuel (skipSpace t)
      return (part :: parts, t)
    | t => return ([part], t)

/-- Digits with single low lines between them, from the start of a text. -/
def spanDigits (isDigit : Char → Bool) : Text → Text × Text
  | [] => ([], [])
  | '_' :: c :: t =>
    if isDigit c then
      let (digits, rest) := spanDigits isDigit t
      (c :: digits, rest)
    else ([], '_' :: c :: t)
  | c :: t =>
    if isDigit c then
      let (digits, rest) := spanDigits isDigit t
      (c :: digits, rest)
    else ([], c :: t)

/-- At least one digit with low lines between digits. -/
def digits? (isDigit : Char → Bool) : Text → Option (Text × Text)
  | c :: t =>
    if isDigit c then
      let (digits, rest) := spanDigits isDigit t
      some (c :: digits, rest)
    else none
  | [] => none

/-- A whole number that is spelled in a base after a zero and a letter. -/
def basedNumber? (t : Text) : Option (Nat × Text) :=
  let read (base : Nat) (isDigit : Char → Bool) (t : Text) : Option (Nat × Text) :=
    (digits? isDigit t).map fun (digits, rest) =>
      (digits.foldl (fun n c => base * n + (hexValue? c).getD 0) 0, rest)
  match t with
  | '0' :: 'x' :: t => read 16 (fun c => (hexValue? c).isSome) t
  | '0' :: 'o' :: t => read 8 (fun c => '0' ≤ c && c ≤ '7') t
  | '0' :: 'b' :: t => read 2 (fun c => c == '0' || c == '1') t
  | _ => none

/-- The digits behind a point, if a digit follows it. -/
def places (t : Text) : Text × Text :=
  match t with
  | '.' :: rest => (digits? Char.isDigit rest).getD ([], t)
  | _ => ([], t)

/-- An exponent, if a digit follows its letter and sign. -/
def exponent? : Text → Option (Int × Text)
  | c :: t =>
    if c = 'e' ∨ c = 'E' then
      let (negative, t) := match t with
        | '-' :: t => (true, t)
        | '+' :: t => (false, t)
        | t => (false, t)
      (digits? Char.isDigit t).map fun (digits, rest) =>
        let size := Int.ofNat (Nat.ofDigitChars 10 digits 0)
        (if negative then -size else size, rest)
    else none
  | [] => none

/-- The digits of a decimal number before its point: a zero, or digits after another one. -/
def wholePart? : Text → Option (Text × Text)
  | '0' :: t => some (['0'], t)
  | t => digits? Char.isDigit t

/-- A decimal number, whole or with a fraction or an exponent. -/
def decimal? (t : Text) : Option (Except Flaw (Datum × Text)) := do
  let (negative, t) := match t with
    | '-' :: t => (true, t)
    | '+' :: t => (false, t)
    | t => (false, t)
  let (whole, t) ← wholePart? t
  let (part, afterPart) := places t
  let sign (n : Nat) : Int := if negative then -Int.ofNat n else Int.ofNat n
  match exponent? afterPart with
  | some (e, rest) =>
    let size := sign (Nat.ofDigitChars 10 (whole ++ part) 0)
    return .ok (.real (Decimal.nearest size (e - part.length)), rest)
  | none =>
    if part.isEmpty then
      if Text.maxDigits < whole.length then return .error (.tooManyDigits whole.length)
      else return .ok (.int (sign (Nat.ofDigitChars 10 whole 0)), afterPart)
    else
      let size := sign (Nat.ofDigitChars 10 (whole ++ part) 0)
      return .ok (.real (Decimal.nearest size (-Int.ofNat part.length)), afterPart)

/-- A number of exactly so many digits, with its rest. -/
def fixed? (count : Nat) (t : Text) : Option (Nat × Text) :=
  let digits := t.take count
  if digits.length = count ∧ digits.all Char.isDigit then
    some (Nat.ofDigitChars 10 digits 0, t.drop count)
  else none

/-- A number of two digits up to a bound, with its rest. -/
def pairUpTo? (most : Nat) (t : Text) : Option (Nat × Text) :=
  (fixed? 2 t).filter (·.1 ≤ most)

/-- What follows a time of day with hours, minutes, seconds and perhaps a fraction. -/
def afterTime? (t : Text) : Option Text := do
  let (_, t) ← pairUpTo? 23 t
  let t ← Text.dropHead? [':'] t
  let (_, t) ← pairUpTo? 59 t
  let t ← Text.dropHead? [':'] t
  let (_, t) ← pairUpTo? 59 t
  match t with
  | '.' :: c :: rest => if c.isDigit then return rest.dropWhile Char.isDigit else return t
  | t => return t

/-- What follows the offset of a time from the universal time, if there is one. -/
def afterOffset (t : Text) : Text :=
  match t with
  | 'Z' :: t | 'z' :: t => t
  | c :: rest =>
    if c = '+' ∨ c = '-' then
      (do
        let (_, t) ← pairUpTo? 23 rest
        let t ← Text.dropHead? [':'] t
        let (_, t) ← pairUpTo? 59 t
        return t).getD t
    else t
  | [] => []

def daysIn (year month : Nat) : Nat :=
  if month = 2 then
    if year % 4 = 0 ∧ (year % 100 ≠ 0 ∨ year % 400 = 0) then 29 else 28
  else if month = 4 ∨ month = 6 ∨ month = 9 ∨ month = 11 then 30
  else 31

/-- A date, perhaps with a time; one that no calendar has is refused. -/
def date? (t : Text) : Option (Except Flaw (Datum × Text)) := do
  let (year, t) ← fixed? 4 t
  let t ← Text.dropHead? ['-'] t
  let (month, t) ← (fixed? 2 t).filter fun m => 1 ≤ m.1 && m.1 ≤ 12
  let t ← Text.dropHead? ['-'] t
  let (day, t) ← (fixed? 2 t).filter fun d => 1 ≤ d.1 && d.1 ≤ 31
  let rest := match t with
    | c :: after =>
      if c = 'T' ∨ c = 't' ∨ c = ' ' then ((afterTime? after).map afterOffset).getD t else t
    | [] => []
  if year = 0 ∨ daysIn year month < day then return refuse else return .ok (.moment, rest)

/-- A word for infinity or for no number. -/
def specialNumber? (t : Text) : Option (Datum × Text) :=
  let infinity : Float := 1.0 / 0.0
  let words : List (Text × Float) :=
    [("inf", infinity), ("nan", 0.0 / 0.0), ("-inf", -infinity), ("+inf", infinity),
      ("-nan", 0.0 / 0.0), ("+nan", 0.0 / 0.0)]
  words.findSome? fun (word, x) => (Text.dropHead? word t).map (Datum.real x, ·)

/-- A value that holds no others and is not quoted. -/
def plainValue (t : Text) : Except Flaw (Datum × Text) :=
  match Text.dropHead? "true" t, Text.dropHead? "false" t with
  | some rest, _ => .ok (.bool true, rest)
  | _, some rest => .ok (.bool false, rest)
  | none, none =>
    match date? t with
    | some reading => reading
    | none =>
      match afterTime? t with
      | some rest => .ok (.moment, rest)
      | none =>
        match basedNumber? t with
        | some (n, rest) => .ok (.int n, rest)
        | none =>
          match decimal? t with
          | some reading => reading
          | none => (specialNumber? t).elim refuse .ok

/-- The fields with a key set, in its place or at the end. -/
def setField (name : Text) (value : Datum) : List (Text × Datum) → List (Text × Datum)
  | [] => [(name, value)]
  | (other, old) :: fields =>
    if other = name then (name, value) :: fields else (other, old) :: setField name value fields

/-- The fields with a change made to the table behind the keys; tables are made where nothing
is. Where `intoLists` allows it, a list of tables stands for its last one. -/
def within (intoLists : Bool) (change : List (Text × Datum) → Option (List (Text × Datum))) :
    List Text → List (Text × Datum) → Option (List (Text × Datum))
  | [], fields => change fields
  | name :: names, fields =>
    match fields.lookup name with
    | none =>
      (within intoLists change names []).map fun inner => setField name (.table inner) fields
    | some (.table inner) =>
      (within intoLists change names inner).map fun inner => setField name (.table inner) fields
    | some (.list items) =>
      if intoLists then
        match items.reverse with
        | .table inner :: earlier =>
          (within intoLists change names inner).map fun inner =>
            setField name (.list (.table inner :: earlier).reverse) fields
        | _ => none
      else none
    | some _ => none

/-- The fields with a new key at their end. -/
def addField (name : Text) (value : Datum) (fields : List (Text × Datum)) :
    Option (List (Text × Datum)) :=
  if (fields.lookup name).isSome then none else some (fields ++ [(name, value)])

/-- The fields with one more table in the list behind a key. -/
def addItem (name : Text) (fields : List (Text × Datum)) : Option (List (Text × Datum)) :=
  match fields.lookup name with
  | none => some (fields ++ [(name, .list [.table []])])
  | some (.list items) => some (setField name (.list (items ++ [.table []])) fields)
  | some _ => none

/-- Whether a value holds others. -/
def holdsValues : Datum → Bool
  | .table _ | .list _ => true
  | _ => false

mutual

def value : Nat → Text → Except Flaw (Datum × Text)
  | 0, _ => refuse
  | fuel + 1, t =>
    match t with
    | '"' :: '"' :: '"' :: t => (multilineText '"' t).map fun (s, t) => (.text s, t)
    | '"' :: t => (lineText '"' t).map fun (s, t) => (.text s, t)
    | '\'' :: '\'' :: '\'' :: t => (multilineText '\'' t).map fun (s, t) => (.text s, t)
    | '\'' :: t => (lineText '\'' t).map fun (s, t) => (.text s, t)
    | '[' :: t => (items fuel t).map fun (items, t) => (.list items, t)
    | '\x7b' :: t =>
      match skipSpace t with
      | '\x7d' :: t => .ok (.table [], t)
      | t => (pairs fuel [] [] t).map fun (fields, t) => (.table fields, t)
    | t => plainValue t

/-- The items of an array up to its closing bracket; a comma may follow the last one. -/
def items : Nat → Text → Except Flaw (List Datum × Text)
  | 0, _ => refuse
  | fuel + 1, t => do
    match ← skipBetweenItems (t.length + 1) t with
    | ']' :: t => return ([], t)
    | t => do
      let (item, t) ← value fuel t
      match ← skipBetweenItems (t.length + 1) t with
      | ']' :: t => return ([item], t)
      | ',' :: t => do
        let (rest, t) ← items fuel t
        return (item :: rest, t)
      | _ => refuse

/-- The pairs of a table on one line up to its closing brace. `closed` holds the keys whose
values cannot be extended. -/
def pairs : Nat → List (List Text) → List (Text × Datum) → Text →
    Except Flaw (List (Text × Datum) × Text)
  | 0, _, _, _ => refuse
  | fuel + 1, closed, fields, t => do
    let ((names, v), t) ← pair fuel t
    if closed.any (·.isPrefixOf names) then refuse
    else
      match within false (addField (names.getLast?.getD []) v) names.dropLast fields with
      | none => refuse
      | some fields =>
        match skipSpace t with
        | '\x7d' :: t => return (fields, t)
        | ',' :: t =>
          pairs fuel (if holdsValues v then names :: closed else closed) fields (skipSpace t)
        | _ => refuse

/-- A key, an equals sign and a value. -/
def pair : Nat → Text → Except Flaw ((List Text × Datum) × Text)
  | 0, _ => refuse
  | fuel + 1, t => do
    let (names, t) ← key (t.length + 1) t
    match t with
    | '=' :: t => do
      let (v, t) ← value fuel (skipSpace t)
      return ((names, v), t)
    | _ => refuse

end

structure Document where
  fields : List (Text × Datum) := []
  /-- The table that pairs go into. -/
  header : List Text := []
  /-- The tables that no header and no key with points may open again. -/
  opened : List (List Text) := []
  /-- The tables that join them at the next header. -/
  pending : List (List Text) := []
  /-- The keys whose values cannot be extended. -/
  frozen : List (List Text) := []

namespace Document

/-- Whether nothing may be added behind a key. -/
def isFrozen (doc : Document) (names : List Text) : Bool :=
  !names.isEmpty && doc.frozen.any (·.isPrefixOf names)

/-- Whether a table was opened. -/
def isOpened (doc : Document) (names : List Text) : Bool := doc.opened.contains names

/-- The document with a pair added to the table of its header. -/
def addPair (doc : Document) (names : List Text) (v : Datum) : Except Flaw Document :=
  let parents := (List.range' 1 (names.length - 1)).map fun n => doc.header ++ names.take n
  let parent := doc.header ++ names.dropLast
  if parents.any doc.isOpened || doc.isFrozen parent then refuse
  else
    match within true (addField (names.getLast?.getD []) v) parent doc.fields with
    | none => refuse
    | some fields =>
      .ok { doc with
        fields
        pending := parents ++ doc.pending
        frozen := if holdsValues v then (doc.header ++ names) :: doc.frozen else doc.frozen }

/-- The document with the tables of keys with points opened, as a header does. -/
def closePending (doc : Document) : Document :=
  { doc with opened := doc.pending ++ doc.opened, pending := [] }

def openTable (doc : Document) (names : List Text) : Except Flaw Document :=
  if doc.isOpened names || doc.isFrozen names then refuse
  else
    match within true some names doc.fields with
    | none => refuse
    | some fields => .ok { doc with fields, header := names, opened := names :: doc.opened }

/-- The document with a table added to a list of tables. -/
def openItem (doc : Document) (names : List Text) : Except Flaw Document :=
  if doc.isFrozen names then refuse
  else
    match within true (addItem (names.getLast?.getD [])) names.dropLast doc.fields with
    | none => refuse
    | some fields =>
      .ok { doc with
        fields
        header := names
        opened := names :: doc.opened.filter fun other => !names.isPrefixOf other
        frozen := doc.frozen.filter fun other => !names.isPrefixOf other }

/-- The document with a header read, after its first bracket. -/
def header? (doc : Document) (t : Text) : Except Flaw (Document × Text) := do
  let doc := doc.closePending
  match t with
  | '[' :: t => do
    let (names, t) ← key (t.length + 1) (skipSpace t)
    let doc ← doc.openItem names
    match t with
    | ']' :: ']' :: t => return (doc, t)
    | _ => refuse
  | t => do
    let (names, t) ← key (t.length + 1) (skipSpace t)
    let doc ← doc.openTable names
    match t with
    | ']' :: t => return (doc, t)
    | _ => refuse

/-- The document with the statement at the start of a line read, if there is one. -/
def statement (doc : Document) (t : Text) : Except Flaw (Document × Text) :=
  match t with
  | [] | '\n' :: _ | '#' :: _ => .ok (doc, t)
  | '[' :: t => doc.header? t
  | t => do
    let ((names, v), t) ← pair (2 * t.length + 2) t
    return (← doc.addPair names v, t)

def lines (doc : Document) : Nat → Text → Except Flaw Document
  | 0, _ => refuse
  | fuel + 1, t => do
    let (doc, t) ← doc.statement (skipSpace t)
    match ← skipComment (skipSpace t) with
    | [] => return doc
    | '\n' :: t => lines doc fuel t
    | _ => refuse

end Document

def read (t : Text) : Except Flaw (List (Text × Datum)) :=
  (Document.lines {} (t.length + 1) t).map (·.fields)

end Recheck.Toml
