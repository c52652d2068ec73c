import Recheck.Decimal

/-!
# Shortest decimals

The text of a double is the shortest decimal that reads back as the same double, and of two
such decimals of one length the nearer.
-/

namespace Recheck.Decimal

/-- A positive decimal, `digits · 10 ^ exponent`. -/
structure Scientific where
  digits : Nat
  exponent : Int
  deriving DecidableEq, Repr

/-- The reals that round to one double, as multiples of a common unit `1 / den`: from `low` to
`high`, with the double itself at `mid`. -/
structure Rounding where
  low : Nat
  mid : Nat
  high : Nat
  den : Nat
  closed : Bool

/-- The reals that round to `mantissa · 2 ^ exponent`. Below a power of two the neighbours are
half as far away; the ends belong to the interval when the mantissa is even. -/
def Rounding.of (mantissa : Nat) (exponent : Int) : Rounding :=
  let narrow := mantissa == Nat.pow 2 52 && decide (-1074 < exponent)
  let scale := exponent - 2
  let up := if 0 ≤ scale then Nat.pow 2 scale.toNat else 1
  { low := (if narrow then 4 * mantissa - 1 else 4 * mantissa - 2) * up
    mid := 4 * mantissa * up
    high := (4 * mantissa + 2) * up
    den := if 0 ≤ scale then 1 else Nat.pow 2 scale.natAbs
    closed := mantissa % 2 == 0 }

/-- `10 ^ exponent` as a quotient of natural numbers. -/
def power (exponent : Int) : Nat × Nat :=
  if 0 ≤ exponent then (Nat.pow 10 exponent.toNat, 1) else (1, Nat.pow 10 exponent.natAbs)

/-- Whether `digits · 10 ^ exponent` rounds to the double. -/
def Rounding.admits (r : Rounding) (x : Scientific) : Bool :=
  let p := power x.exponent
  let point := x.digits * p.1 * r.den
  if r.closed then r.low * p.2 ≤ point && point ≤ r.high * p.2
  else r.low * p.2 < point && point < r.high * p.2

/-- The distance of `digits · 10 ^ exponent` from the double, in units of one exponent. -/
def Rounding.distance (r : Rounding) (x : Scientific) : Nat :=
  let p := power x.exponent
  let point := x.digits * p.1 * r.den
  let mid := r.mid * p.2
  (point - mid) + (mid - point)

/-- The decimal exponent of the leading digit of `num / den`. -/
def leading (num den : Nat) : Int :=
  if den ≤ num then Int.ofNat ((Nat.toDigits 10 (num / den)).length - 1)
  else
    let down := Nat.toDigits 10 (den / num)
    if num * Nat.pow 10 (down.length - 1) < den then -Int.ofNat down.length
    else -Int.ofNat (down.length - 1)

/-- The decimal with `count` digits that reads back as the double, if there is one: of the
double's two neighbours on that grid the nearer, and the even one of two equally near. -/
def Rounding.onGrid? (r : Rounding) (count : Nat) : Option Scientific :=
  let exponent := leading r.mid r.den + 1 - count
  let p := power exponent
  let below : Scientific := ⟨r.mid * p.2 / (r.den * p.1), exponent⟩
  let above : Scientific := ⟨below.digits + 1, exponent⟩
  match r.admits below, r.admits above with
  | true, true =>
    if r.distance below < r.distance above then some below
    else if r.distance above < r.distance below then some above
    else if below.digits % 2 = 0 then some below else some above
  | true, false => some below
  | false, true => some above
  | false, false => none

/-- The shortest decimal that reads back as the positive double `mantissa · 2 ^ exponent`. -/
def shortest (mantissa : Nat) (exponent : Int) : Scientific :=
  let r := Rounding.of mantissa exponent
  ((List.range' 1 17).findSome? r.onGrid?).getD ⟨0, 0⟩

/-- The digits with trailing zeros moved into the exponent. -/
def Scientific.reduced (x : Scientific) : Text × Int :=
  let digits := Nat.toDigits 10 x.digits
  let kept := Text.dropTrailing (· == '0') digits
  (kept, x.exponent + Int.ofNat (digits.length - kept.length))

/-- A point stands inside or beside the digits from `10 ^ (-4)` up to `10 ^ 16`, with at least
one digit on each side of it; beyond, an exponent of at least two digits follows one digit. -/
def Scientific.text (x : Scientific) : Text :=
  let (digits, exponent) := x.reduced
  let place := exponent + Int.ofNat digits.length
  if -4 < place && place ≤ 16 then
    if place ≤ 0 then '0' :: '.' :: List.replicate place.natAbs '0' ++ digits
    else if Int.ofNat digits.length ≤ place then
      digits ++ List.replicate (place.toNat - digits.length) '0' ++ ['.', '0']
    else digits.take place.toNat ++ '.' :: digits.drop place.toNat
  else
    let power := place - 1
    let size := Text.ofNat power.natAbs
    digits.take 1 ++ (if digits.length = 1 then [] else '.' :: digits.drop 1)
      ++ ['e', if power < 0 then '-' else '+'] ++ List.replicate (2 - size.length) '0' ++ size

def text (x : Float) : Text :=
  match Binary.ofFloat? x with
  | none => if x.isNaN then "nan" else if x < 0 then "-inf" else "inf"
  | some b =>
    let size := if b.mantissa = 0 then ['0', '.', '0'] else (shortest b.mantissa b.exponent).text
    if b.negative then '-' :: size else size

end Recheck.Decimal
