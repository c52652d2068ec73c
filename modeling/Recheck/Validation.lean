import Recheck.Datum
import Recheck.Decimal.Numeral
import Recheck.Failure

/-!
# Validating data

Data become domain values by rules that either give a value or name every problem, each with
the place where it is. Rules for numbers and truth values are lenient: they also read texts.
-/

namespace Recheck

/-- A problem of some data: the keys and indexes that lead to it, and what is wrong. -/
structure Problem where
  place : List Text
  text : Text
  deriving DecidableEq, Repr

/-- One line for a problem; `top` stands for a place without a name. -/
def Problem.line (top : Text) (problem : Problem) : Text :=
  let place : Text := List.intercalate ['.'] problem.place
  (if place.isEmpty then top else place) ++ [':', ' '] ++ problem.text

/-- All problems in one line. -/
def Problem.summary (top : Text) (problems : List Problem) : Text :=
  List.intercalate [';', ' '] (problems.map (Problem.line top))

/-- A value, or the problems of the data that it should come from. -/
inductive Checked (α : Type)
  | valid (value : α)
  | problems (list : List Problem)

namespace Checked

variable {α β : Type}

/-- A function applied to a value; the problems of both sides are kept in order. -/
def apply (f : Checked (α → β)) (x : Checked α) : Checked β :=
  match f, x with
  | valid f, valid a => valid (f a)
  | valid _, problems q => problems q
  | problems p, valid _ => problems p
  | problems p, problems q => problems (p ++ q)

instance : Applicative Checked where
  pure := valid
  seq f x := apply f (x ())

/-- One problem with the whole of the data. -/
def wrong (text : Text) : Checked α := problems [⟨[], text⟩]

/-- The same problems, one key further in. -/
def inside (key : Text) : Checked α → Checked α
  | valid a => valid a
  | problems p => problems (p.map fun problem => { problem with place := key :: problem.place })

/-- A value that must also satisfy a condition. -/
def ensure (text : Text) (p : α → Bool) : Checked α → Checked α
  | valid a => if p a then valid a else wrong text
  | problems list => problems list

def value? : Checked α → Option α
  | valid a => some a
  | problems _ => none

/-- The value, or the failure that the problems make. -/
def toExcept : Checked α → Except Failure α
  | valid a => .ok a
  | problems p => .error (.invalid (Problem.summary [] p))

end Checked

/-- The text of a missing field. -/
def requiredText : Text := "Field required"

namespace Datum

/-- A text is itself. -/
def asText : Datum → Checked Text
  | text t => .valid t
  | _ => .wrong "Input should be a valid string"

def tooLongText : Text := "Unable to parse input string as an integer, exceeded maximum size"

/-- Whether a whole number fits into a machine word with a sign. -/
def fitsWord (n : Int) : Bool := -(Nat.pow 2 63 : Int) ≤ n && n < Nat.pow 2 63

/-- The whole number that a double is, if it fits into a machine word and is not the least
one. -/
def wordOf? (b : Decimal.Binary) : Option Int :=
  if b.isWhole && fitsWord b.truncate && b.truncate ≠ -(Nat.pow 2 63 : Int) then some b.truncate
  else none

/-- A whole number, a truth value as zero or one, or a text that spells a whole number. -/
def asInt : Datum → Checked Int
  | int n => .valid n
  | bool b => .valid (if b then 1 else 0)
  | real x =>
    match Decimal.Binary.ofFloat? x with
    | none => .wrong "Input should be a finite number"
    | some b =>
      if !b.isWhole then
        .wrong "Input should be a valid integer, got a number with a fractional part"
      else
        match wordOf? b with
        | some n => .valid n
        | none => .wrong tooLongText
  | text t =>
    match Decimal.wholeOf t with
    | .ok n => .valid n
    | .error .tooLong => .wrong tooLongText
    | .error .malformed =>
      .wrong "Input should be a valid integer, unable to parse string as an integer"
  | _ => .wrong "Input should be a valid integer"

/-- A whole number that is not below a bound. -/
def asIntFrom (least : Int) (d : Datum) : Checked Int :=
  d.asInt.ensure ("Input should be greater than or equal to " ++ Text.ofInt least) (least ≤ ·)

def falseWords : List Text := ["0", "off", "f", "false", "n", "no"]

def trueWords : List Text := ["1", "on", "t", "true", "y", "yes"]

/-- The truth value that a number stands for. -/
def boolOfInt (n : Int) : Checked Bool :=
  if n = 0 then .valid false
  else if n = 1 then .valid true
  else .wrong "Input should be a valid boolean, unable to interpret input"

/-- A truth value, zero or one, or a word for one in any case. Numbers that fit into no machine
word are not even looked at. -/
def asBool : Datum → Checked Bool
  | bool b => .valid b
  | int n => if fitsWord n then boolOfInt n else .wrong "Input should be a valid boolean"
  | real x =>
    match (Decimal.Binary.ofFloat? x).bind wordOf? with
    | some n => boolOfInt n
    | none => .wrong "Input should be a valid boolean"
  | text t =>
    let word := t.map Char.toLower
    if falseWords.contains word then .valid false
    else if trueWords.contains word then .valid true
    else .wrong "Input should be a valid boolean, unable to interpret input"
  | _ => .wrong "Input should be a valid boolean"

/-- A number, a truth value as zero or one, or a text that spells a number. -/
def asReal : Datum → Checked Float
  | real x => .valid x
  | int n =>
    match (Number.whole n).toFloat with
    | .ok x => .valid x
    | .error _ => .wrong "Input should be a valid number"
  | bool b => .valid (if b then 1.0 else 0.0)
  | text t =>
    match Decimal.realOf? t with
    | some x => .valid x
    | none => .wrong "Input should be a valid number, unable to parse string as a number"
  | _ => .wrong "Input should be a valid number"

def asPositive (d : Datum) : Checked Float :=
  d.asReal.ensure "Input should be greater than 0" (0.0 < ·)

/-- One of some words, each with its value. -/
def asWord {α : Type} (words : List (Text × α)) (expected : Text) : Datum → Checked α
  | text t =>
    match words.lookup t with
    | some a => .valid a
    | none => .wrong expected
  | _ => .wrong expected

/-- The fields of a table. -/
def asTable (name : Text) : Datum → Checked (List (Text × Datum))
  | table fields => .valid fields
  | _ => .wrong ("Input should be a valid dictionary or instance of " ++ name)

/-- The values of items by a rule, their problems by index. -/
def itemsFrom {α : Type} (rule : Datum → Checked α) (index : Nat) : List Datum → Checked (List α)
  | [] => .valid []
  | item :: items =>
    List.cons <$> (rule item).inside (Text.ofNat index) <*> itemsFrom rule (index + 1) items

/-- A list of items that a rule reads. -/
def asList {α : Type} (rule : Datum → Checked α) : Datum → Checked (List α)
  | list items => itemsFrom rule 0 items
  | _ => .wrong "Input should be a valid list"

end Datum

/-- A field that must be there. -/
def requiredField {α : Type} (key : Text) (rule : Datum → Checked α)
    (fields : List (Text × Datum)) : Checked α :=
  match fields.lookup key with
  | some value => (rule value).inside key
  | none => (Checked.wrong requiredText).inside key

/-- A field with a value for its absence. -/
def optionalField {α : Type} (key : Text) (rule : Datum → Checked α) (absent : α)
    (fields : List (Text × Datum)) : Checked α :=
  match fields.lookup key with
  | some value => (rule value).inside key
  | none => .valid absent

/-- A field under its public name or, where that is missing, under another. -/
def aliasedField {α : Type} (key other : Text) (rule : Datum → Checked α)
    (fields : List (Text × Datum)) : Checked α :=
  if (fields.lookup key).isNone && (fields.lookup other).isSome then requiredField other rule fields
  else requiredField key rule fields

end Recheck
