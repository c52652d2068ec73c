import Recheck.Text

/-!
# Numbers

A number of a document is either whole, of any size, or a double. A finite double is a natural
number times a power of two, so its whole part is known exactly however large it is.
-/

namespace Recheck

inductive Number
  | whole (n : Int)
  | real (x : Float)
  deriving DecidableEq, Repr

namespace Decimal

/-- The double nearest to `digits · 10 ^ exponent`; exponents beyond every double's range are
decided without computing the power. -/
def nearest (digits : Int) (exponent : Int) : Float :=
  let size := digits.natAbs
  let count : Int := (Nat.toDigits 10 size).length
  let magnitude :=
    if size = 0 then 0.0
    else if 400 < exponent + count then 1.0 / 0.0
    else if exponent + count < -400 then 0.0
    else Float.ofScientific size (decide (exponent < 0)) exponent.natAbs
  if digits < 0 then -magnitude else magnitude

/-- A finite double, exactly: `mantissa · 2 ^ exponent`, or its opposite. -/
structure Binary where
  negative : Bool
  mantissa : Nat
  exponent : Int
  deriving DecidableEq, Repr

/-- The exact value of a double, unless it is infinite or not a number. -/
def Binary.ofFloat? (x : Float) : Option Binary :=
  let bits := x.toBits.toNat
  let field := bits / Nat.pow 2 52 % 2048
  let low := bits % Nat.pow 2 52
  let negative := bits / Nat.pow 2 63 == 1
  if field = 2047 then none
  else if field = 0 then some ⟨negative, low, -1074⟩
  else some ⟨negative, Nat.pow 2 52 + low, Int.ofNat field - 1075⟩

def Binary.truncate (x : Binary) : Int :=
  let size :=
    if 0 ≤ x.exponent then x.mantissa * Nat.pow 2 x.exponent.toNat
    else x.mantissa / Nat.pow 2 x.exponent.natAbs
  if x.negative then -Int.ofNat size else Int.ofNat size

def Binary.isWhole (x : Binary) : Bool :=
  0 ≤ x.exponent || x.mantissa % Nat.pow 2 x.exponent.natAbs == 0

end Decimal

namespace Number

inductive Fault
  /-- Infinity has no whole part. -/
  | infinite
  /-- What is not a number has no whole part. -/
  | undefined
  /-- A whole number is larger than every double. -/
  | beyondDoubles
  /-- A quotient of whole numbers is larger than every double. -/
  | quotientBeyondDoubles
  deriving DecidableEq, Repr

/-- The double, unless it is infinite. -/
def bounded (fault : Fault) (x : Float) : Except Fault Float :=
  if x.isInf then .error fault else .ok x

/-- The double nearest to the number; an infinite one only for itself. -/
def toFloat : Number → Except Fault Float
  | whole n => bounded .beyondDoubles (Decimal.nearest n 0)
  | real x => .ok x

def truncate (x : Float) : Except Fault Int :=
  match Decimal.Binary.ofFloat? x with
  | some b => .ok b.truncate
  | none => .error (if x.isNaN then .undefined else .infinite)

/-- A thousand times the number, without its fractional part: exactly for a whole number, by
the product of doubles otherwise. -/
def toMillis : Number → Except Fault Int
  | whole n => .ok (1000 * n)
  | real x => truncate (x * 1000.0)

def thousandth : Number → Except Fault Float
  | whole n => bounded .quotientBeyondDoubles (Decimal.nearest n (-3))
  | real x => .ok (x / 1000.0)

/-- The milliseconds from one clock reading to a later one, without their fractional part. -/
def elapsedMillis : Number → Number → Except Fault Int
  | whole start, whole now => .ok (1000 * (now - start))
  | start, now => do
    let start ← start.toFloat
    let now ← now.toFloat
    truncate ((now - start) * 1000.0)

end Number

end Recheck
