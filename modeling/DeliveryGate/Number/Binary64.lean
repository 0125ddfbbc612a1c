/-!
# Double-precision numbers

A double is held as its 64 bits, and everything about it is exact integer arithmetic: no machine
floating point is involved. `Binary64.ofRatio` is the one place where a number is rounded (to the
nearest double, a tie going to the even one); reading a decimal, converting an integer, multiplying
and dividing all go through it. Order is the order of `Binary64.key`, an integer in which `-0` and
`0` agree, so comparison is total on everything that is not a NaN.
-/

namespace DeliveryGate

/-- A double-precision number, given by its 64 bits. -/
structure Binary64 where
  bits : UInt64
  deriving DecidableEq, Inhabited

namespace Binary64

/-- One more than the largest magnitude of a finite double: the magnitude of infinity. -/
def infiniteMagnitude : Nat := 0x7FF0000000000000

/-- The exponent of the smallest positive double, `2 ^ (-1074)`. -/
def leastExponent : Int := -1074

/-! ### Fields -/

/-- Whether the sign bit is set. -/
def negative (x : Binary64) : Bool := 0x8000000000000000 ≤ x.bits.toNat

/-- The bits below the sign, read as a number; it grows with the absolute value. -/
def magnitude (x : Binary64) : Nat := x.bits.toNat % 0x8000000000000000

def isNaN (x : Binary64) : Bool := infiniteMagnitude < x.magnitude

def isFinite (x : Binary64) : Bool := x.magnitude < infiniteMagnitude

/-- The double with this sign whose bits below the sign are `magnitude`. -/
def ofMagnitude (negative : Bool) (magnitude : Nat) : Binary64 :=
  ⟨((if negative then 0x8000000000000000 else 0) + magnitude).toUInt64⟩

def zero (negative : Bool) : Binary64 := ofMagnitude negative 0

def infinity (negative : Bool) : Binary64 := ofMagnitude negative infiniteMagnitude

def nan : Binary64 := ofMagnitude false 0x7FF8000000000000

def neg (x : Binary64) : Binary64 := ofMagnitude (!x.negative) x.magnitude

/-- The integer `m` of the exact value `m * 2 ^ scale` of a finite double without its sign. -/
def significand (x : Binary64) : Nat :=
  if x.magnitude < 0x10000000000000 then x.magnitude
  else 0x10000000000000 + x.magnitude % 0x10000000000000

/-- The exponent of the exact value `significand * 2 ^ scale`. -/
def scale (x : Binary64) : Int :=
  if x.magnitude < 0x10000000000000 then leastExponent
  else (x.magnitude / 0x10000000000000 : Nat) - 1075

/-! ### Order -/

/-- An integer that orders the doubles other than NaN as their values are ordered. -/
def key (x : Binary64) : Int := if x.negative then -(x.magnitude : Int) else x.magnitude

def lt (x y : Binary64) : Bool := !x.isNaN && !y.isNaN && x.key < y.key

def le (x y : Binary64) : Bool := !x.isNaN && !y.isNaN && x.key ≤ y.key

/-! ### Rounding -/

/-- The natural number nearest to `num / den`, a tie going to the even one. -/
def roundHalfEven (num den : Nat) : Nat :=
  let quotient := num / den
  let twice := 2 * (num % den)
  if den < twice || (twice == den && quotient % 2 == 1) then quotient + 1 else quotient

/-- The largest `e` with `2 ^ e ≤ num / den`, for positive `num` and `den`. -/
def floorLog2 (num den : Nat) : Int :=
  let guess : Int := (num.log2 : Int) - den.log2
  if num <<< (-guess).toNat < den <<< guess.toNat then guess - 1 else guess

/-- The double nearest to `num / den` (for positive `den`), a tie going to the even one; infinite
from the middle between the largest double and the next power of two on. -/
def ofRatio (negative : Bool) (num den : Nat) : Binary64 :=
  if num == 0 then zero negative
  else
    let unit : Int := max (floorLog2 num den - 52) leastExponent
    let digits := roundHalfEven (num <<< (-unit).toNat) (den <<< unit.toNat)
    let magnitude := (unit - leastExponent).toNat * 0x10000000000000 + digits
    ofMagnitude negative (min magnitude infiniteMagnitude)

def ofNat (n : Nat) : Binary64 := ofRatio false n 1

def ofInt (n : Int) : Binary64 := ofRatio (n < 0) n.natAbs 1

/-- The double nearest to `digits * 10 ^ exponent`. Far outside the range of doubles the answer is
known without computing the power. -/
def ofDecimal (negative : Bool) (digits : Nat) (exponent : Int) : Binary64 :=
  if digits == 0 then zero negative
  else
    let top : Int := exponent + (digits.log2 : Int) / 3
    if 400 < exponent then infinity negative
    else if top < -800 then zero negative
    else ofRatio negative (digits * Nat.pow 10 exponent.toNat) (Nat.pow 10 (-exponent).toNat)

/-! ### Arithmetic on finite doubles -/

/-- The double nearest to the product. -/
def mul (x y : Binary64) : Binary64 :=
  let scale := x.scale + y.scale
  ofRatio (x.negative != y.negative)
    ((x.significand * y.significand) <<< scale.toNat) (1 <<< (-scale).toNat)

/-- The double nearest to the quotient, for a divisor other than zero. -/
def div (x y : Binary64) : Binary64 :=
  let scale := x.scale - y.scale
  ofRatio (x.negative != y.negative)
    (x.significand <<< scale.toNat) (y.significand <<< (-scale).toNat)

end Binary64

end DeliveryGate
