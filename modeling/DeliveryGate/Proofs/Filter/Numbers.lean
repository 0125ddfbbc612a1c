import DeliveryGate.Filter.Comparison
import DeliveryGate.Proofs.Json.Canonical
import DeliveryGate.Proofs.Number.Rounding

/-!
# Comparing numbers

Order is defined between numbers only, and whatever a value or a text is read as is no NaN
(`Json.isNaN_of_number?`, `Authored.isNaN_of_number?`). So of any two numbers one is above the other
or is not, and the operators of order can be had from each other; a range is the two bounds that its
list names (`Operator.orderOperators_coherent`).
-/

namespace DeliveryGate

/-! ### No NaN -/

theorem Authored.isNaN_of_number? {expected : String} {x : Binary64}
    (h : number? expected = some x) : x.isNaN = false := by
  rw [number?, Option.filter_eq_some_iff, Bool.not_eq_true'] at h
  exact h.2

/-- Neither a number, nor a boolean, nor a text that spells one is read as NaN. -/
theorem Json.isNaN_of_number? {value : Json} {x : Binary64} (hproper : value.proper = true)
    (h : value.number? = some x) : x.isNaN = false := by
  cases value with
  | null | arr | obj => cases h
  | bool b =>
    obtain rfl := Option.some.inj h
    cases b <;> decide
  | int n =>
    obtain rfl := Option.some.inj h
    exact Binary64.isNaN_of_isFinite (Binary64.ofInt_isNearest hproper).finite
  | double y =>
    obtain rfl := Option.some.inj h
    exact Binary64.isNaN_of_isFinite hproper
  | str s => exact Authored.isNaN_of_number? h

/-- Where there is no NaN the order is total. -/
theorem Binary64.lt_eq_not_le {x y : Binary64} (hx : x.isNaN = false) (hy : y.isNaN = false) :
    x.lt y = !y.le x := by
  simp only [lt, le, hx, hy, Bool.not_false, Bool.true_and, ← decide_not, Int.not_le]

theorem Binary64.lt_asymm {x y : Binary64} (h : x.lt y = true) : y.lt x = false := by
  rw [lt, Bool.and_eq_true, decide_eq_true_eq] at h
  rw [lt, decide_eq_false (Int.lt_asymm h.2), Bool.and_false]

namespace Operator

variable {actual : Option Json} {expected : String}

/-! ### Bounds -/

theorem numbersRelated_of_some {related : Binary64 → Binary64 → Bool} {x y : Binary64}
    (hx : actual.bind Json.number? = some x) (hy : Authored.number? expected = some y) :
    numbersRelated actual expected related = related x y := by
  rw [numbersRelated, hx, hy]

theorem numbersRelated_iff {related : Binary64 → Binary64 → Bool} :
    numbersRelated actual expected related = true ↔
      ∃ x y, actual.bind Json.number? = some x ∧ Authored.number? expected = some y ∧
        related x y = true := by
  constructor
  · intro h
    rw [numbersRelated] at h
    split at h
    · exact ⟨_, _, ‹_›, ‹_›, h⟩
    · cases h
  · rintro ⟨x, y, hx, hy, h⟩
    rwa [numbersRelated_of_some hx hy]

/-- What is not a number stands in no relation to numbers. -/
theorem numbersRelated_of_none {related : Binary64 → Binary64 → Bool}
    (h : actual.bind Json.number? = none ∨ Authored.number? expected = none) :
    numbersRelated actual expected related = false := by
  rw [Bool.eq_false_iff, ne_eq, numbersRelated_iff]
  rintro ⟨x, y, hx, hy, -⟩
  rcases h with h | h
  · cases hx.symm.trans h
  · cases hy.symm.trans h

/-- A value lies in a range if it respects the two bounds of its list. -/
theorem within_iff : within actual expected = true ↔
    ∃ low high, Authored.list expected = [low, high] ∧
      largerEqual.holds actual low = true ∧ smallerEqual.holds actual high = true := by
  simp only [holds, numbersRelated_iff]
  rw [within]
  constructor
  · intro h
    split at h
    · rename_i low high hlist
      split at h
      · rename_i x l u hx hl hu
        rw [Bool.and_eq_true] at h
        exact ⟨low, high, hlist, ⟨x, l, hx, hl, h.1⟩, ⟨x, u, hx, hu, h.2⟩⟩
      · cases h
    · cases h
  · rintro ⟨low, high, hlist, ⟨x, l, hx, hl, hlow⟩, ⟨x', u, hx', hu, hhigh⟩⟩
    obtain rfl := Option.some.inj (hx.symm.trans hx')
    simp only [hlist, hx, hl, hu, hlow, hhigh, Bool.and_true]

/-! ### The operators of order -/

/-- On two numbers the operators of order are two pairs of opposites. -/
structure Opposed (actual : Option Json) (expected : String) : Prop where
  apart : (larger.holds actual expected && smaller.holds actual expected) = false
  larger : larger.holds actual expected = !smallerEqual.holds actual expected
  smaller : smaller.holds actual expected = !largerEqual.holds actual expected

theorem opposed_of_numbers (hactual : ∀ value ∈ actual, value.proper = true) {x y : Binary64}
    (hx : actual.bind Json.number? = some x) (hy : Authored.number? expected = some y) :
    Opposed actual expected := by
  obtain ⟨value, hvalue, hnumber⟩ := Option.bind_eq_some_iff.mp hx
  have hxNaN := Json.isNaN_of_number? (hactual value hvalue) hnumber
  have hyNaN := Authored.isNaN_of_number? hy
  refine ⟨?_, ?_, ?_⟩ <;> simp only [holds, numbersRelated_of_some hx hy]
  · rw [Bool.and_eq_false_imp]
    exact Binary64.lt_asymm
  · exact Binary64.lt_eq_not_le hyNaN hxNaN
  · exact Binary64.lt_eq_not_le hxNaN hyNaN

/-- The operators of order all fail where one side is no number, and are opposites of each other
where both are. A range is the conjunction of two of them, on the bounds that its list names. -/
theorem orderOperators_coherent (actual : Option Json) (expected : String) :
    (actual.bind Json.number? = none ∨ Authored.number? expected = none →
      ∀ operator ∈ [larger, smaller, largerEqual, smallerEqual],
        operator.holds actual expected = false) ∧
    ((∀ value ∈ actual, value.proper = true) → (actual.bind Json.number?).isSome = true →
      (Authored.number? expected).isSome = true → Opposed actual expected) ∧
    (between.holds actual expected = true ↔
      ∃ low high, Authored.list expected = [low, high] ∧
        largerEqual.holds actual low = true ∧ smallerEqual.holds actual high = true) := by
  refine ⟨fun hnone => ?_, fun hactual hx hy => ?_, within_iff⟩
  · simp [holds, numbersRelated_of_none hnone]
  · obtain ⟨x, hx⟩ := Option.isSome_iff_exists.mp hx
    obtain ⟨y, hy⟩ := Option.isSome_iff_exists.mp hy
    exact opposed_of_numbers hactual hx hy

/-- The word for NaN is no number, but those for the infinities are, and so is a boolean. -/
theorem orderOperators_coherent_words :
    Authored.number? "nan" = none ∧
      largerEqual.holds (some (.bool true)) "nan" = false ∧
      Opposed (some (.bool true)) "-infinity" ∧
      between.holds (some (.bool true)) "-inf, 1" = true := by
  have hnan : Authored.number? "nan" = none := by decide
  have hproper : ∀ value ∈ some (Json.bool true), value.proper = true := by
    rintro _ ⟨⟩
    rfl
  obtain ⟨hnone, -, -⟩ := orderOperators_coherent (some (.bool true)) "nan"
  obtain ⟨-, hopposed, -⟩ := orderOperators_coherent (some (.bool true)) "-infinity"
  obtain ⟨-, -, hbetween⟩ := orderOperators_coherent (some (.bool true)) "-inf, 1"
  refine ⟨hnan, hnone (.inr hnan) _ (by decide), hopposed hproper rfl (by decide), ?_⟩
  exact hbetween.mpr ⟨"-inf", "1", by decide, by decide, by decide⟩

end Operator

end DeliveryGate
