import DeliveryGate.Proofs.Number.Value
import Mathlib.Algebra.Order.Field.Basic
import Mathlib.Tactic.FieldSimp

/-!
# Rounding to the nearest double

`Binary64.ofRatio` rounds once: what it gives for `num / den` is, when finite, a double nearest to
that number, and its significand is even where two doubles are equally near
(`Binary64.ofRatio_isNearest`). The proof compares on the grid of the result. Every double is a
multiple of the unit of the result or lies below the whole binade (`Binary64.onGrid_or_lt`), and
among the multiples the nearest was chosen.

Integers of 64 bits are far from the largest double, so each has its nearest double
(`Binary64.ofInt_isNearest`); up to `2 ^ 53` it is the integer itself (`Binary64.value_ofInt`).
-/

namespace DeliveryGate

namespace Binary64

/-- A finite double at least as near to a number as every finite double, with an even significand
where a double of another value is equally near. -/
structure IsNearest (x : Binary64) (q : ℚ) : Prop where
  finite : x.isFinite = true
  nearest : ∀ y : Binary64, y.isFinite = true → |x.value - q| ≤ |y.value - q|
  even_of_tie : ∀ y : Binary64, y.isFinite = true → y.value ≠ x.value →
    |y.value - q| = |x.value - q| → x.significand % 2 = 0

/-- The significand of a double is even exactly if the bits below the sign end with a zero. -/
theorem significand_mod_two (x : Binary64) : x.significand % 2 = x.magnitude % 2 := by
  rw [significand]
  split
  · rfl
  · omega

theorem abs_value_neg_sub (x : Binary64) (q : ℚ) : |x.neg.value - q| = |x.value - -q| := by
  rw [value_neg, ← abs_neg]
  congr 1
  ring

theorem midpoint_le {a b p : ℚ} (hlt : b < a) (h : |a - p| ≤ |b - p|) : a + b ≤ 2 * p := by
  by_contra hlow
  have hcloser : |b - p| < a - p := abs_lt.mpr ⟨by linarith, by linarith⟩
  have hfar : a - p ≤ |a - p| := le_abs_self _
  linarith

theorem le_midpoint {a b p : ℚ} (hlt : b < a) (h : |b - p| ≤ |a - p|) : 2 * p ≤ a + b := by
  by_contra hhigh
  have hcloser : |a - p| < p - b := abs_lt.mpr ⟨by linarith, by linarith⟩
  have hfar : -(b - p) ≤ |b - p| := neg_le_abs _
  linarith

namespace IsNearest

variable {x y : Binary64} {p q : ℚ}

/-- Rounding never reverses an order. -/
theorem mono (hx : x.IsNearest p) (hy : y.IsNearest q) (hlt : p < q) : x.value ≤ y.value := by
  by_contra hrev
  have hless : y.value < x.value := not_le.mp hrev
  -- `p` would lie in the upper half between the two doubles, and `q` in the lower half
  have hp := midpoint_le hless (hx.nearest y hy.finite)
  have hq := le_midpoint hless (hy.nearest x hx.finite)
  linarith

theorem neg (hx : x.IsNearest q) : x.neg.IsNearest (-q) := by
  have hdist (y : Binary64) : |y.value - -q| = |y.neg.value - q| := (abs_value_neg_sub y q).symm
  have hself : |x.neg.value - -q| = |x.value - q| := by
    rw [abs_value_neg_sub, neg_neg]
  refine ⟨isFinite_neg hx.finite, fun y hy => ?_, fun y hy hne htie => ?_⟩
  · rw [hself, hdist]
    exact hx.nearest y.neg (isFinite_neg hy)
  · have hother : y.neg.value ≠ x.value := by
      rw [value_neg] at hne ⊢
      exact fun heq => hne (by rw [← heq, neg_neg])
    rw [hself, hdist] at htie
    rw [significand_mod_two, Binary64.neg, magnitude_ofMagnitude _ x.magnitude_lt,
      ← significand_mod_two]
    exact hx.even_of_tie y.neg (isFinite_neg hy) hother htie

end IsNearest

/-! ### Whole numbers -/

/-- A natural number at most one half away from a number, an even one where the half is reached. -/
structure RoundsTo (r : ℚ) (n : Nat) : Prop where
  near : |(n : ℚ) - r| ≤ 1 / 2
  even_of_tie : |(n : ℚ) - r| = 1 / 2 → n % 2 = 0

theorem roundHalfEven_roundsTo (num : Nat) {den : Nat} (hden : 0 < den) :
    RoundsTo ((num : ℚ) / den) (roundHalfEven num den) := by
  have hpos : (0 : ℚ) < den := Nat.cast_pos.mpr hden
  -- `t` is the part behind the point, and the four facts about it say all that rounding looks at
  obtain ⟨t, ht⟩ : ∃ t : ℚ, t = ((num % den : Nat) : ℚ) / den := ⟨_, rfl⟩
  have hsplit : (num : ℚ) / den = (num / den : Nat) + t := by
    rw [ht, div_eq_iff hpos.ne', add_mul, div_mul_cancel₀ _ hpos.ne']
    exact_mod_cast (Nat.div_add_mod' num den).symm
  have hnonneg : 0 ≤ t := by
    rw [ht]
    positivity
  have hone : t < 1 := by
    rw [ht, div_lt_one hpos]
    exact_mod_cast Nat.mod_lt num hden
  have hhalf : t = 1 / 2 ↔ 2 * (num % den) = den := by
    rw [ht, div_eq_div_iff hpos.ne' two_ne_zero]
    norm_cast
    omega
  have habove : 1 / 2 < t ↔ den < 2 * (num % den) := by
    rw [ht, div_lt_div_iff₀ two_pos hpos]
    norm_cast
    omega
  rw [roundHalfEven]
  split
  · rename_i hup
    simp only [Bool.or_eq_true, Bool.and_eq_true, decide_eq_true_eq, beq_iff_eq] at hup
    have hdist : |((num / den + 1 : Nat) : ℚ) - num / den| = 1 - t := by
      rw [hsplit, abs_of_nonneg] <;> push_cast <;> linarith
    refine ⟨?_, fun htie => ?_⟩
    · rw [hdist]
      rcases hup with hmore | ⟨hsame, -⟩
      · have hupper := habove.mpr hmore
        linarith
      · have hmiddle := hhalf.mpr hsame
        linarith
    · have hmiddle : t = 1 / 2 := by linarith [hdist.symm.trans htie]
      have hsame := hhalf.mp hmiddle
      omega
  · rename_i hstay
    simp only [Bool.or_eq_true, Bool.and_eq_true, decide_eq_true_eq, beq_iff_eq, not_or] at hstay
    have hdist : |((num / den : Nat) : ℚ) - num / den| = t := by
      rw [hsplit, sub_add_cancel_left, abs_neg, abs_of_nonneg hnonneg]
    refine ⟨hdist.trans_le (not_lt.mp fun habove' => hstay.1 (habove.mp habove')), fun htie => ?_⟩
    have heven : ¬num / den % 2 = 1 := fun hodd => hstay.2 ⟨hhalf.mp (hdist.symm.trans htie), hodd⟩
    omega

namespace RoundsTo

variable {r v : ℚ} {n : Nat}

/-- Two whole numbers are not both close to a third number. -/
theorem one_le_add {z : ℤ} (hne : (z : ℚ) ≠ n) : 1 ≤ |(z : ℚ) - r| + |(n : ℚ) - r| := by
  have hapart : (1 : ℚ) ≤ |(z : ℚ) - n| := by
    have hint : (1 : ℤ) ≤ |z - n| := Int.one_le_abs (sub_ne_zero.mpr fun heq => hne (by simp [heq]))
    exact_mod_cast hint
  calc (1 : ℚ) ≤ |(z : ℚ) - n| := hapart
    _ ≤ |(z : ℚ) - r| + |r - n| := abs_sub_le _ _ _
    _ = |(z : ℚ) - r| + |(n : ℚ) - r| := by rw [abs_sub_comm r]

theorem le_of_int (h : RoundsTo r n) (z : ℤ) : |(n : ℚ) - r| ≤ |(z : ℚ) - r| := by
  rcases eq_or_ne (z : ℚ) n with heq | hne
  · rw [heq]
  · have hsum := one_le_add (r := r) hne
    have hnear := h.near
    linarith

theorem even_of_int (h : RoundsTo r n) {z : ℤ} (hne : (z : ℚ) ≠ n)
    (htie : |(z : ℚ) - r| = |(n : ℚ) - r|) : n % 2 = 0 := by
  have hsum := one_le_add (r := r) hne
  have hnear := h.near
  exact h.even_of_tie (by linarith)

/-- What lies on the other side of a whole number is farther away. -/
theorem lt_of_lt (h : RoundsTo r n) {z : ℤ} (hv : v < z) (hr : (z : ℚ) ≤ r) :
    |(n : ℚ) - r| < |v - r| := by
  calc |(n : ℚ) - r| ≤ |(z : ℚ) - r| := h.le_of_int z
    _ = r - z := by rw [abs_of_nonpos (by linarith), neg_sub]
    _ < r - v := by linarith
    _ = |v - r| := by rw [abs_of_nonpos (by linarith), neg_sub]

theorem le (h : RoundsTo r n) {m : Nat} (hr : r ≤ m) : n ≤ m := by
  have hnear := (abs_le.mp h.near).2
  have hlt : (n : ℚ) < m + 1 := by linarith
  exact Nat.lt_succ_iff.mp (by exact_mod_cast hlt)

theorem ge (h : RoundsTo r n) {m : Nat} (hr : (m : ℚ) ≤ r) : m ≤ n := by
  have hnear := (abs_le.mp h.near).1
  have hlt : (m : ℚ) < n + 1 := by linarith
  exact Nat.lt_succ_iff.mp (by exact_mod_cast hlt)

/-- A whole number is rounded to itself. -/
theorem eq_of_natCast {m : Nat} (h : RoundsTo (m : ℚ) n) : n = m :=
  Nat.le_antisymm (h.le (le_refl _)) (h.ge (le_refl _))

end RoundsTo

/-! ### The unit of the result -/

/-- Shifting the one number or the other divides their quotient by a power of two. -/
theorem shifted_div (num den : Nat) (e : Int) :
    ((num <<< (-e).toNat : Nat) : ℚ) / (den <<< e.toNat : Nat) = num / den / 2 ^ e := by
  have hpow : (2 : ℚ) ^ e = 2 ^ e.toNat / 2 ^ (-e).toNat := by
    rw [← zpow_natCast, ← zpow_natCast, ← zpow_sub₀ two_ne_zero, Int.toNat_sub_toNat_neg]
  rw [Nat.shiftLeft_eq, Nat.shiftLeft_eq, hpow, div_div_eq_mul_div, div_mul_eq_mul_div, div_div]
  push_cast
  rfl

theorem floorLog2_spec {num den : Nat} (hnum : 0 < num) (hden : 0 < den) :
    (2 : ℚ) ^ floorLog2 num den ≤ num / den ∧ (num : ℚ) / den < 2 ^ (floorLog2 num den + 1) := by
  have hpos : (0 : ℚ) < den := Nat.cast_pos.mpr hden
  have hnumLow : (2 : ℚ) ^ num.log2 ≤ num := by exact_mod_cast Nat.log2_self_le hnum.ne'
  have hnumHigh : (num : ℚ) < 2 ^ (num.log2 + 1) := by exact_mod_cast Nat.lt_log2_self
  have hdenLow : (2 : ℚ) ^ den.log2 ≤ den := by exact_mod_cast Nat.log2_self_le hden.ne'
  have hdenHigh : (den : ℚ) < 2 ^ (den.log2 + 1) := by exact_mod_cast Nat.lt_log2_self
  have hguess (e : Int) :
      num <<< (-e).toNat < den <<< e.toNat ↔ (num : ℚ) / den < 2 ^ e := by
    have hshifted : (0 : ℚ) < (den <<< e.toNat : Nat) := by
      rw [Nat.shiftLeft_eq]
      positivity
    rw [← Nat.cast_lt (α := ℚ), ← div_lt_one hshifted, shifted_div, div_lt_one (by positivity)]
  have hlow : (2 : ℚ) ^ ((num.log2 : Int) - den.log2 - 1) ≤ num / den := by
    rw [le_div_iff₀ hpos]
    calc (2 : ℚ) ^ ((num.log2 : Int) - den.log2 - 1) * den
      _ ≤ 2 ^ ((num.log2 : Int) - den.log2 - 1) * 2 ^ (den.log2 + 1) := by gcongr
      _ = 2 ^ num.log2 := by
        rw [← zpow_natCast, ← zpow_natCast, ← zpow_add₀ two_ne_zero]
        congr 1
        push_cast
        ring
      _ ≤ num := hnumLow
  have hhigh : (num : ℚ) / den < 2 ^ ((num.log2 : Int) - den.log2 + 1) := by
    rw [div_lt_iff₀ hpos]
    calc (num : ℚ) < 2 ^ (num.log2 + 1) := hnumHigh
      _ = 2 ^ ((num.log2 : Int) - den.log2 + 1) * 2 ^ den.log2 := by
        rw [← zpow_natCast, ← zpow_natCast, ← zpow_add₀ two_ne_zero]
        congr 1
        push_cast
        ring
      _ ≤ 2 ^ ((num.log2 : Int) - den.log2 + 1) * den := by gcongr
  rw [floorLog2]
  split
  · rename_i hless
    rw [sub_add_cancel]
    exact ⟨hlow, (hguess _).mp hless⟩
  · rename_i hmore
    exact ⟨not_lt.mp fun hless => hmore ((hguess _).mpr hless), hhigh⟩

/-- The exponent of the last digit of the double nearest to `num / den`. -/
def ratioUnit (num den : Nat) : Int := max (floorLog2 num den - 52) leastExponent

/-- The digits of the double nearest to `num / den`: this number in units, rounded. -/
def ratioDigits (num den : Nat) : Nat :=
  roundHalfEven (num <<< (-ratioUnit num den).toNat) (den <<< (ratioUnit num den).toNat)

/-- How far the unit is above the smallest one. -/
def ratioShift (num den : Nat) : Nat := (ratioUnit num den - leastExponent).toNat

theorem ratioUnit_eq (num den : Nat) : ratioUnit num den = leastExponent + ratioShift num den := by
  rw [ratioShift, ratioUnit]
  omega

theorem ofRatio_of_pos (negative : Bool) {num : Nat} (den : Nat) (hnum : 0 < num) :
    ofRatio negative num den = ofMagnitude negative
      (min (ratioShift num den * 0x10000000000000 + ratioDigits num den) infiniteMagnitude) := by
  rw [ofRatio, if_neg (by simpa using hnum.ne')]
  rfl

section

variable {num den : Nat}

theorem ratioDigits_roundsTo (num : Nat) (hden : 0 < den) :
    RoundsTo ((num : ℚ) / den / 2 ^ ratioUnit num den) (ratioDigits num den) := by
  rw [ratioDigits, ← shifted_div]
  refine roundHalfEven_roundsTo _ ?_
  rw [Nat.shiftLeft_eq]
  exact Nat.mul_pos hden (Nat.two_pow_pos _)

theorem ratioDigits_le (hnum : 0 < num) (hden : 0 < den) :
    ratioDigits num den ≤ 0x20000000000000 := by
  have hhigh := (floorLog2_spec hnum hden).2
  refine (ratioDigits_roundsTo num hden).le ?_
  rw [div_le_iff₀ (by positivity)]
  calc (num : ℚ) / den ≤ 2 ^ (floorLog2 num den + 1) := hhigh.le
    _ ≤ 2 ^ (53 + ratioUnit num den) := by
      refine zpow_le_zpow_right₀ one_le_two ?_
      rw [ratioUnit]
      omega
    _ = (0x20000000000000 : Nat) * 2 ^ ratioUnit num den := by
      rw [zpow_add₀ two_ne_zero]
      norm_num

/-- Above the smallest unit a number has all its 53 digits before the point. -/
theorem le_ratio (hnum : 0 < num) (hden : 0 < den) (hshift : ratioShift num den ≠ 0) :
    ((0x10000000000000 : Nat) : ℚ) ≤ num / den / 2 ^ ratioUnit num den := by
  have hlow := (floorLog2_spec hnum hden).1
  rw [le_div_iff₀ (by positivity)]
  calc ((0x10000000000000 : Nat) : ℚ) * 2 ^ ratioUnit num den
    _ = 2 ^ (52 + ratioUnit num den) := by
      rw [zpow_add₀ two_ne_zero]
      norm_num
    _ = 2 ^ floorLog2 num den := by
      rw [ratioShift, ratioUnit] at hshift
      rw [ratioUnit]
      congr 1
      omega
    _ ≤ num / den := hlow

/-! ### The grid of a result -/

/-- Digits up to the next binade, put above a shift, stand for so many units. -/
theorem unitsOf_shifted {shift digits : Nat} (hdigits : digits ≤ 0x20000000000000)
    (hfull : shift ≠ 0 → 0x10000000000000 ≤ digits) :
    unitsOf (shift * 0x10000000000000 + digits) = digits * 2 ^ shift := by
  rw [unitsOf]
  rcases Nat.lt_or_ge digits 0x10000000000000 with hsmall | hlarge
  · obtain rfl : shift = 0 := not_not.mp fun hne => absurd (hfull hne) (by omega)
    rw [if_pos (by omega)]
    simp
  · rw [if_neg (by omega)]
    rcases Nat.lt_or_ge digits 0x20000000000000 with hlt | hge
    · have hdiv : (shift * 0x10000000000000 + digits) / 0x10000000000000 = shift + 1 := by omega
      have hmod : (shift * 0x10000000000000 + digits) % 0x10000000000000
        = digits - 0x10000000000000 := by omega
      rw [hdiv, hmod, Nat.add_sub_cancel, Nat.add_sub_of_le hlarge]
    · -- the digits were rounded up to a power of two
      have hdiv : (shift * 0x10000000000000 + digits) / 0x10000000000000 = shift + 1 + 1 := by omega
      have hmod : (shift * 0x10000000000000 + digits) % 0x10000000000000 = 0 := by omega
      rw [hdiv, hmod, Nat.add_sub_cancel, Nat.pow_succ, Nat.le_antisymm hdigits hge]
      ring

theorem unitsOf_onGrid_or_lt (m shift : Nat) :
    2 ^ shift ∣ unitsOf m ∨ unitsOf m < 0x10000000000000 * 2 ^ shift := by
  rw [unitsOf]
  split
  · rename_i hsmall
    exact Or.inr (Nat.lt_of_lt_of_le hsmall (Nat.le_mul_of_pos_right _ (Nat.two_pow_pos _)))
  · rcases Nat.lt_or_ge (m / 0x10000000000000 - 1) shift with hlt | hge
    · refine Or.inr ?_
      calc (0x10000000000000 + m % 0x10000000000000) * 2 ^ (m / 0x10000000000000 - 1)
        _ < (0x10000000000000 + 0x10000000000000) * 2 ^ (m / 0x10000000000000 - 1) :=
          Nat.mul_lt_mul_of_pos_right (by omega) (Nat.two_pow_pos _)
        _ = 0x10000000000000 * 2 ^ (m / 0x10000000000000 - 1 + 1) := by ring
        _ ≤ 0x10000000000000 * 2 ^ shift :=
          Nat.mul_le_mul_left _ (Nat.pow_le_pow_right two_pos hlt)
    · exact Or.inl (Dvd.dvd.mul_left (Nat.pow_dvd_pow 2 hge) _)

/-- Every double is a multiple of a unit, or it lies below the numbers that have 53 digits in that
unit. -/
theorem onGrid_or_lt (y : Binary64) (shift : Nat) :
    (∃ z : ℤ, y.value = z * 2 ^ (leastExponent + shift)) ∨
      shift ≠ 0 ∧ y.value < (0x10000000000000 : Nat) * 2 ^ (leastExponent + shift) := by
  have hunit : (0 : ℚ) < 2 ^ leastExponent := by positivity
  have hsplit (v : ℚ) :
      v * 2 ^ (leastExponent + (shift : Int)) = v * 2 ^ shift * 2 ^ leastExponent := by
    rw [zpow_add₀ two_ne_zero, zpow_natCast]
    ring
  rw [value_eq]
  simp only [hsplit]
  rcases Nat.eq_zero_or_pos shift with rfl | hpos
  · exact Or.inl ⟨units y.key, by simp⟩
  · match y.key with
    | .ofNat m =>
      rcases unitsOf_onGrid_or_lt m shift with ⟨z, hz⟩ | hlt
      · refine Or.inl ⟨z, ?_⟩
        rw [units, hz]
        push_cast
        ring
      · refine Or.inr ⟨hpos.ne', mul_lt_mul_of_pos_right ?_ hunit⟩
        rw [units]
        exact_mod_cast hlt
    | .negSucc m =>
      refine Or.inr ⟨hpos.ne', mul_lt_mul_of_pos_right ?_ hunit⟩
      have hneg : ((units (.negSucc m) : ℤ) : ℚ) ≤ 0 := by
        rw [units]
        push_cast
        exact neg_nonpos.mpr (Nat.cast_nonneg _)
      exact hneg.trans_lt (by positivity)

/-- What is written for a positive number, unless it is too large for a double. -/
theorem magnitude_ofRatio (hnum : 0 < num) (hfinite : (ofRatio false num den).isFinite = true) :
    (ofRatio false num den).magnitude
      = ratioShift num den * 0x10000000000000 + ratioDigits num den := by
  have hbound : min (ratioShift num den * 0x10000000000000 + ratioDigits num den) infiniteMagnitude
      < 0x8000000000000000 := Nat.lt_of_le_of_lt (Nat.min_le_right _ _) (by decide)
  rw [ofRatio_of_pos false den hnum] at hfinite ⊢
  rw [isFinite, magnitude_ofMagnitude false hbound, decide_eq_true_eq] at hfinite
  rw [magnitude_ofMagnitude false hbound]
  omega

theorem value_ofRatio (hnum : 0 < num) (hden : 0 < den)
    (hfinite : (ofRatio false num den).isFinite = true) :
    (ofRatio false num den).value = ratioDigits num den * 2 ^ ratioUnit num den := by
  have hsign : (ofRatio false num den).negative = false := by
    rw [ofRatio_of_pos false den hnum]
    exact negative_ofMagnitude false (Nat.lt_of_le_of_lt (Nat.min_le_right _ _) (by decide))
  have hfull (hshift : ratioShift num den ≠ 0) : 0x10000000000000 ≤ ratioDigits num den :=
    (ratioDigits_roundsTo num hden).ge (le_ratio hnum hden hshift)
  rw [value, hsign, if_neg (by decide), absValue_eq, magnitude_ofRatio hnum hfinite,
    unitsOf_shifted (ratioDigits_le hnum hden) hfull, ratioUnit_eq, zpow_add₀ two_ne_zero,
    zpow_natCast]
  push_cast
  ring

/-- A quotient is rounded to the nearest double, a tie going to the even one. -/
theorem ofRatio_isNearest (hden : 0 < den) (hfinite : (ofRatio false num den).isFinite = true) :
    (ofRatio false num den).IsNearest ((num : ℚ) / den) := by
  rcases Nat.eq_zero_or_pos num with rfl | hnum
  · have hzero : (ofRatio false 0 den).value = 0 := value_zero false
    rw [Nat.cast_zero, zero_div]
    refine ⟨hfinite, fun y _ => ?_, fun _ _ _ _ => rfl⟩
    rw [hzero, sub_zero, abs_zero]
    exact abs_nonneg _
  · have hunit : (0 : ℚ) < 2 ^ ratioUnit num den := by positivity
    have hround := ratioDigits_roundsTo num hden
    have hvalue := value_ofRatio hnum hden hfinite
    -- distances in units
    have hdist (v : ℚ) : |v * 2 ^ ratioUnit num den - num / den|
        = |v - num / den / 2 ^ ratioUnit num den| * 2 ^ ratioUnit num den := by
      rw [← abs_of_pos hunit, ← abs_mul, abs_of_pos hunit, sub_mul, div_mul_cancel₀ _ hunit.ne']
    have hother (y : Binary64) : (∃ z : ℤ, y.value = z * 2 ^ ratioUnit num den) ∨
        |(ofRatio false num den).value - num / den| < |y.value - num / den| := by
      rcases onGrid_or_lt y (ratioShift num den) with hgrid | ⟨hshift, hlow⟩
      · rw [← ratioUnit_eq] at hgrid
        exact Or.inl hgrid
      · rw [← ratioUnit_eq, ← div_lt_iff₀ hunit] at hlow
        have hlt := hround.lt_of_lt (z := (0x10000000000000 : Nat)) (by exact_mod_cast hlow)
          (by exact_mod_cast le_ratio hnum hden hshift)
        refine Or.inr ?_
        rw [hvalue, ← div_mul_cancel₀ y.value hunit.ne', hdist, hdist]
        exact mul_lt_mul_of_pos_right hlt hunit
    refine ⟨hfinite, fun y _ => ?_, fun y _ hne htie => ?_⟩
    · rcases hother y with ⟨z, hz⟩ | hfar
      · rw [hvalue, hz, hdist, hdist]
        exact mul_le_mul_of_nonneg_right (hround.le_of_int z) hunit.le
      · exact hfar.le
    · rcases hother y with ⟨z, hz⟩ | hfar
      · rw [hvalue, hz] at hne htie
        rw [hdist, hdist] at htie
        have heven := hround.even_of_int (fun heq => hne (by rw [heq]))
          (mul_right_cancel₀ hunit.ne' htie)
        rw [significand_mod_two, magnitude_ofRatio hnum hfinite]
        omega
      · exact absurd htie hfar.ne'

end

/-! ### Integers -/

theorem ofRatio_true {num den : Nat} (hnum : 0 < num) :
    ofRatio true num den = (ofRatio false num den).neg := by
  rw [ofRatio_of_pos true den hnum, ofRatio_of_pos false den hnum, neg_ofMagnitude]
  · rfl
  · exact Nat.lt_of_le_of_lt (Nat.min_le_right _ _) (by decide)

/-- A negative integer is rounded as its opposite is. -/
theorem ofInt_eq (n : Int) :
    ofInt n = if n < 0 then (ofNat n.natAbs).neg else ofNat n.natAbs := by
  rw [ofInt]
  split
  · rename_i hneg
    rw [decide_eq_true hneg, ofRatio_true (by omega)]
    rfl
  · rename_i hnonneg
    rw [decide_eq_false hnonneg]
    rfl

theorem cast_eq_signed (n : Int) : (n : ℚ) = if n < 0 then -(n.natAbs : ℚ) else n.natAbs := by
  rw [Nat.cast_natAbs]
  split
  · rename_i hneg
    rw [abs_of_neg hneg, Int.cast_neg, neg_neg]
  · rename_i hnonneg
    rw [abs_of_nonneg (not_lt.mp hnonneg)]

/-- A number of 64 bits is rounded to the nearest double. -/
theorem ofNat_isNearest {n : Nat} (hn : n < 0x10000000000000000) : (ofNat n).IsNearest n := by
  have hratio := ofRatio_isNearest Nat.one_pos (isFinite_ofNat hn)
  rwa [Nat.cast_one, div_one] at hratio

/-- An integer of 64 bits is rounded to the nearest double, a tie going to the even one. -/
theorem ofInt_isNearest {n : Int} (hn : Json.isWord n = true) : (ofInt n).IsNearest n := by
  have hword : n.natAbs < 0x10000000000000000 := by
    rw [Json.isWord, Bool.and_eq_true, decide_eq_true_eq, decide_eq_true_eq] at hn
    omega
  rw [ofInt_eq, cast_eq_signed]
  by_cases hneg : n < 0
  · rw [if_pos hneg, if_pos hneg]
    exact (ofNat_isNearest hword).neg
  · rw [if_neg hneg, if_neg hneg]
    exact ofNat_isNearest hword

/-- Up to `2 ^ 53` every natural number is the value of a double. -/
theorem value_ofNat {n : Nat} (hn : n ≤ 0x20000000000000) : (ofNat n).value = n := by
  rcases Nat.eq_zero_or_pos n with rfl | hpos
  · exact value_zero false
  · obtain ⟨digits, hdigits⟩ :
        ∃ digits : Nat, (n : ℚ) / (1 : Nat) / 2 ^ ratioUnit n 1 = digits := by
      rcases Nat.lt_or_eq_of_le hn with hlt | rfl
      · have hlog : n.log2 < 53 := (Nat.log2_lt hpos.ne').mpr hlt
        have hshift : (ratioUnit n 1).toNat = 0 := by
          rw [ratioUnit, floorLog2_one hpos.ne', leastExponent]
          omega
        rw [← shifted_div, hshift, Nat.shiftLeft_zero, Nat.cast_one, div_one]
        exact ⟨_, rfl⟩
      · rw [show ratioUnit 0x20000000000000 1 = 1 by decide]
        exact ⟨0x10000000000000, by norm_num⟩
    have hround := ratioDigits_roundsTo n Nat.one_pos
    rw [hdigits] at hround
    rw [ofNat, value_ofRatio hpos Nat.one_pos (isFinite_ofNat (by omega)), hround.eq_of_natCast,
      ← hdigits, div_mul_cancel₀ _ (by positivity), Nat.cast_one, div_one]

/-- Up to `2 ^ 53` an integer is its own double. -/
theorem value_ofInt {n : Int} (hn : n.natAbs ≤ 0x20000000000000) : (ofInt n).value = n := by
  rw [ofInt_eq, cast_eq_signed]
  by_cases hneg : n < 0
  · rw [if_pos hneg, if_pos hneg, value_neg, value_ofNat hn]
  · rw [if_neg hneg, if_neg hneg, value_ofNat hn]

end Binary64

end DeliveryGate
