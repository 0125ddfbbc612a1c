import DeliveryGate.Proofs.Json.Numerals
import Mathlib.Algebra.Order.Field.Power
import Mathlib.Order.Monotone.Basic
import Mathlib.Algebra.Order.Ring.Rat
import Mathlib.Tactic.Linarith
import Mathlib.Tactic.NormNum
import Mathlib.Tactic.Positivity
import Mathlib.Tactic.Ring

/-!
# The values of doubles

Every finite double is a whole number of times the smallest positive one, and that number grows with
the bits below the sign (`Binary64.unitsOf_lt_succ`). So the order of the keys is the order of the
values (`Binary64.key_lt_key_iff`), and on doubles other than NaN `lt` and `le` compare values
(`Binary64.lt_iff`, `Binary64.le_iff`).
-/

namespace DeliveryGate

namespace Binary64

/-! ### Values -/

/-- The value of a finite double without its sign. -/
def absValue (x : Binary64) : ℚ := x.significand * 2 ^ x.scale

/-- The value of a finite double; both zeros have the value zero. -/
def value (x : Binary64) : ℚ := if x.negative then -x.absValue else x.absValue

/-- How many times the smallest positive double is contained in the one of this magnitude. -/
def unitsOf (magnitude : Nat) : Nat :=
  if magnitude < 0x10000000000000 then magnitude
  else (0x10000000000000 + magnitude % 0x10000000000000) * 2 ^ (magnitude / 0x10000000000000 - 1)

/-- `unitsOf`, with the sign of the magnitude. -/
def units : Int → Int
  | .ofNat magnitude => unitsOf magnitude
  | .negSucc magnitude => -unitsOf (magnitude + 1)

theorem unitsOf_lt_succ (m : Nat) : unitsOf m < unitsOf (m + 1) := by
  rw [unitsOf, unitsOf]
  rcases Nat.lt_trichotomy (m + 1) 0x10000000000000 with hsmall | heq | hlarge
  · rw [if_pos (by omega), if_pos hsmall]
    exact Nat.lt_succ_self m
  · obtain rfl : m = 0xFFFFFFFFFFFFF := by omega
    decide
  · rw [if_neg (by omega), if_neg (by omega)]
    obtain ⟨k, hk⟩ : ∃ k, m / 0x10000000000000 = k + 1 :=
      Nat.exists_eq_succ_of_ne_zero (by omega)
    rcases Nat.lt_or_ge (m % 0x10000000000000 + 1) 0x10000000000000 with hstay | hcarry
    · have hdiv : (m + 1) / 0x10000000000000 = m / 0x10000000000000 := by omega
      have hmod : (m + 1) % 0x10000000000000 = m % 0x10000000000000 + 1 := by omega
      rw [hdiv, hmod]
      exact Nat.mul_lt_mul_of_pos_right (by omega) (Nat.two_pow_pos _)
    · -- the fraction is full: the next double starts the next power of two
      have hdiv : (m + 1) / 0x10000000000000 = k + 1 + 1 := by omega
      have hmod : (m + 1) % 0x10000000000000 = 0 := by omega
      rw [hdiv, hmod, hk, Nat.add_sub_cancel, Nat.add_sub_cancel, Nat.pow_succ,
        Nat.mul_comm (2 ^ k), ← Nat.mul_assoc]
      exact Nat.mul_lt_mul_of_pos_right (by omega) (Nat.two_pow_pos _)

theorem units_lt_units_iff (j k : Int) : units j < units k ↔ j < k := by
  have hstep : ∀ k : Int, units k < units (k + 1)
    | .ofNat m => Int.ofNat_lt.mpr (unitsOf_lt_succ m)
    | .negSucc 0 => by decide
    | .negSucc (m + 1) => Int.neg_lt_neg (Int.ofNat_lt.mpr (unitsOf_lt_succ (m + 1)))
  exact (strictMono_int_of_lt_succ hstep).lt_iff_lt

theorem units_neg (m : Nat) : units (-(m : Int)) = -unitsOf m := by
  cases m with
  | zero => rfl
  | succ m => rfl

theorem absValue_eq (x : Binary64) :
    x.absValue = unitsOf x.magnitude * (2 : ℚ) ^ leastExponent := by
  rw [absValue, significand, scale, unitsOf]
  split
  · rfl
  · rename_i hlarge
    have hscale : ((x.magnitude / 0x10000000000000 : Nat) : Int) - 1075
        = ((x.magnitude / 0x10000000000000 - 1 : Nat) : Int) + leastExponent := by
      rw [leastExponent]
      omega
    rw [hscale, zpow_add₀ two_ne_zero, zpow_natCast]
    push_cast
    ring

/-- The key, by which doubles are compared, determines the value. -/
theorem value_eq (x : Binary64) : x.value = units x.key * (2 : ℚ) ^ leastExponent := by
  rw [value, key, absValue_eq]
  split
  · rw [units_neg]
    push_cast
    ring
  · rfl

/-! ### Order -/

theorem key_lt_key_iff (x y : Binary64) : x.key < y.key ↔ x.value < y.value := by
  have hunit : (0 : ℚ) < 2 ^ leastExponent := by positivity
  rw [value_eq, value_eq, mul_lt_mul_iff_left₀ hunit, Int.cast_lt, units_lt_units_iff]

theorem key_le_key_iff (x y : Binary64) : x.key ≤ y.key ↔ x.value ≤ y.value := by
  rw [← not_lt, key_lt_key_iff, not_lt]

theorem isNaN_of_isFinite {x : Binary64} (h : x.isFinite = true) : x.isNaN = false :=
  decide_eq_false (Nat.lt_asymm (of_decide_eq_true h))

section

variable {x y : Binary64}

theorem lt_iff (hx : x.isNaN = false) (hy : y.isNaN = false) :
    x.lt y = true ↔ x.value < y.value := by
  rw [lt, hx, hy, ← key_lt_key_iff]
  exact decide_eq_true_iff

theorem le_iff (hx : x.isNaN = false) (hy : y.isNaN = false) :
    x.le y = true ↔ x.value ≤ y.value := by
  rw [le, hx, hy, ← key_le_key_iff]
  exact decide_eq_true_iff

end

/-! ### Signs -/

theorem negative_ofMagnitude (negative : Bool) {m : Nat} (h : m < 0x8000000000000000) :
    (ofMagnitude negative m).negative = negative := by
  cases negative <;> simp [Binary64.negative, ofMagnitude, Nat.toUInt64] <;> omega

theorem magnitude_lt (x : Binary64) : x.magnitude < 0x8000000000000000 :=
  Nat.mod_lt _ (by decide)

theorem neg_ofMagnitude (negative : Bool) {m : Nat} (h : m < 0x8000000000000000) :
    (ofMagnitude negative m).neg = ofMagnitude (!negative) m := by
  rw [neg, negative_ofMagnitude negative h, magnitude_ofMagnitude negative h]

theorem value_ofMagnitude (negative : Bool) {m : Nat} (h : m < 0x8000000000000000) :
    (ofMagnitude negative m).value =
      (if negative then -1 else 1) * (unitsOf m * (2 : ℚ) ^ leastExponent) := by
  rw [value, absValue_eq, negative_ofMagnitude negative h, magnitude_ofMagnitude negative h]
  split
  · ring
  · ring

theorem value_zero (negative : Bool) : (zero negative).value = 0 := by
  rw [zero, value_ofMagnitude negative (by decide), unitsOf]
  simp

theorem value_neg (x : Binary64) : x.neg.value = -x.value := by
  rw [neg, value_ofMagnitude _ x.magnitude_lt, value, absValue_eq]
  cases x.negative with
  | true => simp
  | false => simp

end Binary64

end DeliveryGate
