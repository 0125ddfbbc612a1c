import DeliveryGate.Json.Value
import DeliveryGate.Number.Reading

/-!
# Numerals of JSON texts

`Numeral` is a number as a text spells it, and `Numeral.value?` the value that it denotes. A numeral
without fraction and exponent that fits 64 bits is an integer (`-0` is not: it is the negative
zero). Every other numeral is a double, built in two rounded steps: the leading digits that fit 64
bits are rounded to a double, and this is scaled by the double nearest to the power of ten. With up
to fifteen digits and a power up to `10 ^ 22` both steps are exact up to the last rounding, so the
result is then the nearest double. A numeral too large for a double has no value.
-/

namespace DeliveryGate

namespace Json

/-- A number as it is spelled: the digits before and after the point, and the exponent. -/
structure Numeral where
  negative : Bool
  whole : List Char
  /-- Empty where there is no point. -/
  fraction : List Char
  exponent : Option Int
  deriving DecidableEq

namespace Numeral

/-- Append decimal digits to a number as long as it stays below `2 ^ 64`; the digits that are left
come with it. -/
def absorb (significand : Nat) : List Char → Nat × List Char
  | [] => (significand, [])
  | c :: rest =>
    let next := 10 * significand + (Number.digit? c).getD 0
    if next < 0x10000000000000000 then absorb next rest else (significand, c :: rest)

/-- The double nearest to `10 ^ n`. -/
def powerOfTen (n : Nat) : Binary64 := Binary64.ofDecimal false 1 n

/-- Divide by `10 ^ n`, at most `10 ^ 308` at a time. A few steps reach zero from any number of 64
bits, so `steps` of them suffice for every `n`. -/
def scaleDown (x : Binary64) (n : Nat) : Nat → Binary64
  | 0 => Binary64.zero false
  | steps + 1 =>
    if n ≤ 308 then x.div (powerOfTen n)
    else scaleDown (x.div (powerOfTen 308)) (n - 308) steps

/-- The double `significand * 10 ^ exponent` in two rounded steps; `none` if it is infinite. -/
def scaled? (negative : Bool) (significand : Nat) (exponent : Int) : Option Binary64 :=
  let x := Binary64.ofNat significand
  let result :=
    if significand == 0 then x
    else if exponent < 0 then scaleDown x exponent.natAbs 4
    else if 308 < exponent then Binary64.infinity false
    else x.mul (powerOfTen exponent.toNat)
  if result.isFinite then some (if negative then result.neg else result) else none

/-- The double that a numeral denotes. -/
def double? (n : Numeral) : Option Binary64 :=
  let (significand, leftWhole) := absorb 0 n.whole
  let (significand, leftFraction) := absorb significand n.fraction
  let taken := n.fraction.length - leftFraction.length
  scaled? n.negative significand (leftWhole.length - taken + n.exponent.getD 0)

/-- The value that a numeral denotes; `none` if it is too large for a double. -/
def value? (n : Numeral) : Option Json :=
  let magnitude := Number.ofDigits n.whole
  if n.fraction.isEmpty && n.exponent.isNone && magnitude < 0x10000000000000000 then
    if !n.negative then some (.int magnitude)
    else if 0 < magnitude && magnitude ≤ 0x8000000000000000 then some (.int (-(magnitude : Int)))
    else some (.double (Binary64.ofNat magnitude).neg)
  else n.double?.map .double

/-- The digits in front of a text, at least one, and the rest. -/
def digits? (cs : List Char) : Option (List Char × List Char) :=
  let digits := cs.takeWhile Number.isDigit
  if digits.isEmpty then none else some (digits, cs.dropWhile Number.isDigit)

/-- The digits before the point: a zero stands alone. -/
def whole? (cs : List Char) : Option (List Char × List Char) :=
  match digits? cs with
  | some ('0' :: _ :: _, _) => none
  | result => result

/-- A point with at least one digit behind it, if there is a point. -/
def fraction? : List Char → Option (List Char × List Char)
  | '.' :: rest => digits? rest
  | cs => some ([], cs)

/-- An exponent with at least one digit, if there is a mark. -/
def exponent? : List Char → Option (Option Int × List Char)
  | [] => some (none, [])
  | c :: rest =>
    if c == 'e' || c == 'E' then
      let (negative, body) := Number.splitSign rest
      (digits? body).map fun (digits, rest) =>
        let n : Int := Number.ofDigits digits
        (some (if negative then -n else n), rest)
    else some (none, c :: rest)

/-- The numeral in front of a text, and the rest. -/
def read? (cs : List Char) : Option (Numeral × List Char) := do
  let (negative, cs) := match cs with
    | '-' :: rest => (true, rest)
    | _ => (false, cs)
  let (whole, cs) ← whole? cs
  let (fraction, cs) ← fraction? cs
  let (exponent, cs) ← exponent? cs
  some (⟨negative, whole, fraction, exponent⟩, cs)

end Numeral

end Json

end DeliveryGate
