import DeliveryGate.Number.Binary64

/-!
# The shortest decimal of a double

`Binary64.shortest` writes a positive finite double as the decimal with the fewest digits among
those that round back to it, and among these the nearest one. The numbers that round to a double
form an interval; for one digit, two digits, and so on, the two neighbours of the value on that
decimal grid are tried, and the first grid with a neighbour inside the interval wins.

`NumberLayout` says how such a decimal is laid out as text.
-/

namespace DeliveryGate

/-- The positive number `digits * 10 ^ exponent`. -/
structure Decimal where
  digits : Nat
  exponent : Int
  deriving DecidableEq, Repr

namespace Binary64

/-- The decimal digits of a natural number, most significant first. -/
def decimalDigits (n : Nat) : List Char := Nat.toDigits 10 n

/-- The interval of numbers that round to a positive finite double, as numerators over one
denominator, with the value itself: `(low, value, high, den)`. -/
def roundingInterval (x : Binary64) : Nat × Nat × Nat × Nat :=
  let m := x.significand
  let below := if m == 0x10000000000000 && leastExponent < x.scale then 1 else 2
  let up := 1 <<< (x.scale - 2).toNat
  let den := 1 <<< (2 - x.scale).toNat
  ((4 * m - below) * up, 4 * m * up, (4 * m + 2) * up, den)

/-- The least `p` with `value / den < 10 ^ p`, found from an estimate by at most two steps. -/
def decimalPoint (value den : Nat) : Int :=
  let guess : Int := (floorLog2 value den * 30103) / 100000
  let reaches (p : Int) : Bool := den * Nat.pow 10 p.toNat ≤ value * Nat.pow 10 (-p).toNat
  if reaches (guess + 1) then guess + 2 else if reaches guess then guess + 1 else guess

/-- The neighbour of the value on the grid of multiples of `10 ^ exponent` that is nearest to it and
rounds to `x`, if there is one; a tie goes to the even multiple. -/
def nearestOnGrid (x : Binary64) (exponent : Int) : Option Decimal :=
  let (low, value, high, den) := x.roundingInterval
  let up := Nat.pow 10 (-exponent).toNat
  let unit := den * Nat.pow 10 exponent.toNat
  let inside (n : Nat) : Bool :=
    if x.significand % 2 == 0 then low * up ≤ n * unit && n * unit ≤ high * up
    else low * up < n * unit && n * unit < high * up
  let floor := value * up / unit
  let nearest := roundHalfEven (value * up) unit
  let other := if nearest == floor then floor + 1 else floor
  if inside nearest then some ⟨nearest, exponent⟩
  else if inside other then some ⟨other, exponent⟩
  else none

/-- The first grid that holds a number rounding to `x`, from coarse to fine: `fuel` grids are tried,
and seventeen digits always suffice. -/
def shortestFrom (x : Binary64) (exponent : Int) : Nat → Decimal
  | 0 => ⟨x.significand, exponent⟩
  | fuel + 1 =>
    match x.nearestOnGrid exponent with
    | some decimal => decimal
    | none => shortestFrom x (exponent - 1) fuel

/-- The shortest decimal that rounds to a positive finite double, nearest among the shortest. The
search starts at the grid on which the value lies between zero and one, so that a power of ten just
above the value counts as one digit. -/
def shortest (x : Binary64) : Decimal :=
  let (_, value, _, den) := x.roundingInterval
  shortestFrom x (decimalPoint value den) 19

end Binary64

/-- How a double is laid out as text. -/
structure NumberLayout where
  /-- Least exponent of the leading digit that is written positionally. -/
  leastPositional : Int
  /-- Greatest exponent of the leading digit that is written positionally. -/
  greatestPositional : Int
  /-- What stands between the digits and the exponent. -/
  mark : List Char
  /-- Whether an exponent that is not negative carries a sign. -/
  plusSign : Bool

namespace NumberLayout

/-- Digits with the point after the first `places` of them; zeros fill what is missing. -/
def positional (digits : List Char) (places : Int) : List Char :=
  if places ≤ 0 then
    '0' :: '.' :: (List.replicate (-places).toNat '0' ++ digits)
  else
    let whole := places.toNat
    if digits.length ≤ whole then
      digits ++ List.replicate (whole - digits.length) '0' ++ ['.', '0']
    else
      digits.take whole ++ '.' :: digits.drop whole

/-- Digits with the point after the first, and an exponent. -/
def scientific (layout : NumberLayout) (digits : List Char) (exponent : Int) : List Char :=
  let mantissa :=
    match digits with
    | [] => []
    | [d] => [d]
    | d :: rest => d :: '.' :: rest
  let sign := if exponent < 0 then ['-'] else if layout.plusSign then ['+'] else []
  mantissa ++ layout.mark ++ sign ++ Binary64.decimalDigits exponent.natAbs

/-- The text of a finite double: zero keeps its sign, every positional number has a decimal. -/
def render (layout : NumberLayout) (x : Binary64) : List Char :=
  let sign := if x.negative then ['-'] else []
  if x.magnitude == 0 then sign ++ ['0', '.', '0']
  else
    let decimal := x.shortest
    let digits := Binary64.decimalDigits decimal.digits
    let places := decimal.exponent + digits.length
    let exponent := places - 1
    if layout.leastPositional ≤ exponent && exponent ≤ layout.greatestPositional then
      sign ++ positional digits places
    else
      sign ++ layout.scientific digits exponent

end NumberLayout

end DeliveryGate
