import DeliveryGate.Proofs.Filter.Numbers
import DeliveryGate.Proofs.Text.Pieces
import DeliveryGate.Proofs.Time.Timestamp

/-!
# Comparing integers

An integer of a payload and the decimal text of another one are compared in two ways: order compares
the doubles nearest to them, equality compares texts. An integer has one double, whether it was
converted or its text was read (`Authored.number?_toString`), and doubles never reverse the order.
So the operators order integers of 64 bits as they should, except that different integers with the
same double are neither equal nor is one of them the larger (`Operator.passes_integers`). Up to
`2 ^ 53` there are no such integers.
-/

namespace DeliveryGate

/-! ### Reading the text of an integer -/

namespace Number

theorem toLower_of_isDigit {c : Char} (h : c.isDigit = true) : c.toLower = c := by
  rw [Char.isDigit, Bool.and_eq_true, decide_eq_true_eq, decide_eq_true_eq] at h
  refine dif_neg fun hupper => ?_
  have hlow : (65 : UInt32) ≤ c.val := hupper.1
  have hhigh : c.val ≤ (57 : UInt32) := h.2
  exact absurd (UInt32.le_trans hlow hhigh) (by decide)

theorem ofDecimal_zero (negative : Bool) (n : Nat) :
    Binary64.ofDecimal negative n 0 = Binary64.ofRatio negative n 1 := by
  rw [Binary64.ofDecimal]
  split
  · rename_i hzero
    rw [beq_iff_eq] at hzero
    rw [hzero]
    rfl
  · have hsmall : ¬(400 : Int) < 0 := by decide
    have hlarge : ¬0 + (n.log2 : Int) / 3 < -800 := by omega
    dsimp only
    rw [if_neg hsmall, if_neg hlarge]
    exact congrArg (Binary64.ofRatio negative · 1) (Nat.mul_one n)

/-- Digits alone denote a whole number, which is rounded once. -/
theorem decimal?_decimalDigits (negative : Bool) (n : Nat) :
    decimal? negative (Binary64.decimalDigits n) = some (Binary64.ofRatio negative n 1) := by
  have hdigits : ∀ c ∈ Binary64.decimalDigits n, isDigit c = true := fun c hc =>
    isDigit_of_isDigit (Binary64.isDigit_of_mem_decimalDigits hc)
  have htake : (Binary64.decimalDigits n).takeWhile isDigit = Binary64.decimalDigits n := by
    simpa using @List.takeWhile_append_of_pos _ _ _ [] hdigits
  have hdrop : (Binary64.decimalDigits n).dropWhile isDigit = [] := by
    simpa using @List.dropWhile_append_of_pos _ _ _ [] hdigits
  rw [decimal?, htake, hdrop]
  simp [Binary64.decimalDigits_ne_nil, exponent?, Binary64.ofDigits_decimalDigits, ofDecimal_zero]

theorem splitSign_decimalDigits (n : Nat) :
    splitSign (Binary64.decimalDigits n) = (false, Binary64.decimalDigits n) := by
  obtain ⟨c, rest, hdigits, hc⟩ := Binary64.exists_cons_decimalDigits n
  rw [hdigits, splitSign]
  · rintro _ ⟨⟩
    cases hc
  · rintro _ ⟨⟩
    cases hc

theorem double?_of_splitSign {cs : List Char} {negative : Bool} {n : Nat}
    (h : splitSign cs = (negative, Binary64.decimalDigits n)) :
    double? cs = some (Binary64.ofRatio negative n 1) := by
  obtain ⟨c, rest, hdigits, hc⟩ := Binary64.exists_cons_decimalDigits n
  -- the first digit is the first letter of no word
  have hword (letter : Char) (letters : List Char) (hletter : letter.isDigit = false) :
      ((Binary64.decimalDigits n).map Char.toLower == letter :: letters) = false := by
    rw [hdigits, List.map_cons, toLower_of_isDigit hc, beq_eq_false_iff_ne]
    intro heq
    rw [(List.cons.inj heq).1, hletter] at hc
    cases hc
  rw [double?, h]
  dsimp only
  rw [hword _ _ (by decide), hword _ _ (by decide), hword _ _ (by decide)]
  exact decimal?_decimalDigits negative n

theorem double?_renderInt (n : Int) : double? (Json.renderInt n) = some (Binary64.ofInt n) := by
  rw [Binary64.ofInt, Json.renderInt]
  split
  · rename_i hneg
    rw [decide_eq_true hneg]
    exact double?_of_splitSign rfl
  · rename_i hnonneg
    rw [decide_eq_false hnonneg]
    exact double?_of_splitSign (splitSign_decimalDigits n.natAbs)

end Number

theorem isBlank_of_mem_renderInt {n : Int} {c : Char} (h : c ∈ Json.renderInt n) :
    Text.isBlank c = false := by
  have hdigits : ∀ c ∈ Binary64.decimalDigits n.natAbs, Text.isBlank c = false := fun c hc =>
    Number.isBlank_of_isDigit
      (Number.isDigit_of_isDigit (Binary64.isDigit_of_mem_decimalDigits hc))
  rw [Json.renderInt] at h
  split at h
  · rcases List.mem_cons.mp h with rfl | h
    · decide
    · exact hdigits c h
  · exact hdigits c h

/-- The text of an integer is read as the double that the integer is converted to. -/
theorem Authored.number?_toString {n : Int} (hn : Json.isWord n = true) :
    number? (toString n) = some (Binary64.ofInt n) := by
  have hnumber := Binary64.isNaN_of_isFinite (Binary64.ofInt_isNearest hn).finite
  rw [number?, ← Json.ofList_renderInt, String.toList_ofList,
    Text.trim_eq_self (Text.trimmed_of_forall fun c => isBlank_of_mem_renderInt),
    Number.double?_renderInt]
  exact Option.filter_some_pos (by rw [hnumber]; rfl)

/-- Integers of 64 bits with the same text are the same. -/
theorem Json.toString_inj {m n : Int} (hm : isWord m = true) (hn : isWord n = true) :
    toString m = toString n ↔ m = n := by
  refine ⟨fun heq => ?_, fun heq => by rw [heq]⟩
  have htext : renderInt m ++ [] = renderInt n ++ [] := by
    rw [← ofList_renderInt, ← ofList_renderInt] at heq
    rw [String.ofList_injective heq]
  have hcloses : Closes [] := fun c hc => by cases hc
  have hnumeral := (Numeral.read?_renderInt m hcloses).symm.trans
    ((congrArg Numeral.read? htext).trans (Numeral.read?_renderInt n hcloses))
  rw [Option.some.injEq, Prod.mk.injEq] at hnumeral
  have hvalue := (Numeral.value?_ofInt hm).symm.trans
    ((congrArg Numeral.value? hnumeral.1).trans (Numeral.value?_ofInt hn))
  simpa using hvalue

namespace Operator

/-- Whether the integer `m` of a payload passes the comparison with the decimal text of `n`. -/
def passes (operator : Operator) (m n : Int) : Bool := operator.holds (some (.int m)) (toString n)

/-- The operators of order compare `m` with `n` as `x` is compared with `y`; that of equality asks
whether they are the same integer. -/
structure ComparesAs {α : Type} [LT α] [LE α] (m n : Int) (x y : α) : Prop where
  larger : larger.passes m n = true ↔ y < x
  smaller : smaller.passes m n = true ↔ x < y
  largerEqual : largerEqual.passes m n = true ↔ y ≤ x
  smallerEqual : smallerEqual.passes m n = true ↔ x ≤ y
  equal : equal.passes m n = true ↔ m = n

/-- The integers are the same, or they have different doubles. -/
def Apart (m n : Int) : Prop := m = n ∨ (Binary64.ofInt m).value ≠ (Binary64.ofInt n).value

section

variable {m n : Int}

/-- The operators compare the doubles nearest to the integers. -/
theorem comparesAs_value (hm : Json.isWord m = true) (hn : Json.isWord n = true) :
    ComparesAs m n (Binary64.ofInt m).value (Binary64.ofInt n).value := by
  have hx := Binary64.isNaN_of_isFinite (Binary64.ofInt_isNearest hm).finite
  have hy := Binary64.isNaN_of_isFinite (Binary64.ofInt_isNearest hn).finite
  have hrelated (related : Binary64 → Binary64 → Bool) :
      numbersRelated (some (.int m)) (toString n) related
        = related (Binary64.ofInt m) (Binary64.ofInt n) :=
    numbersRelated_of_some rfl (Authored.number?_toString hn)
  refine ⟨?_, ?_, ?_, ?_, ?_⟩
  · rw [passes, holds, hrelated, Binary64.lt_iff hy hx]
  · rw [passes, holds, hrelated, Binary64.lt_iff hx hy]
  · rw [passes, holds, hrelated, Binary64.le_iff hy hx]
  · rw [passes, holds, hrelated, Binary64.le_iff hx hy]
  · have htext : (Json.int m).text = toString m := Json.ofList_renderInt m
    rw [passes, holds, textEqual, htext, beq_iff_eq, Json.toString_inj hm hn]

/-- Rounding keeps the order of integers that it does not bring together. -/
theorem value_lt_value_iff (hm : Json.isWord m = true) (hn : Json.isWord n = true)
    (hapart : Apart m n) : (Binary64.ofInt m).value < (Binary64.ofInt n).value ↔ m < n := by
  have hx := Binary64.ofInt_isNearest hm
  have hy := Binary64.ofInt_isNearest hn
  rcases hapart with rfl | hne
  · simp
  · refine ⟨fun hlt => ?_, fun hlt => lt_of_le_of_ne (hx.mono hy (by exact_mod_cast hlt)) hne⟩
    by_contra hnot
    rcases eq_or_lt_of_le (not_lt.mp hnot) with rfl | hgt
    · exact hne rfl
    · exact absurd (hy.mono hx (by exact_mod_cast hgt)) (not_le.mpr hlt)

theorem comparesAs_self (hm : Json.isWord m = true) (hn : Json.isWord n = true)
    (hapart : Apart m n) : ComparesAs m n m n := by
  have h := comparesAs_value hm hn
  have hforth := value_lt_value_iff hm hn hapart
  have hback := value_lt_value_iff hn hm (hapart.imp Eq.symm Ne.symm)
  refine ⟨h.larger.trans hback, h.smaller.trans hforth, ?_, ?_, h.equal⟩
  · rw [h.largerEqual, ← not_lt, hforth, not_lt]
  · rw [h.smallerEqual, ← not_lt, hback, not_lt]

/-- Of these operators one is passed, unless different integers are compared as the same. -/
theorem count_of_comparesAs {α : Type} [LinearOrder α] {x y : α} (h : ComparesAs m n x y)
    (hsame : m = n → x = y) :
    [larger, smaller, equal].countP (·.passes m n) = if m = n ∨ x ≠ y then 1 else 0 := by
  have hlarger : larger.passes m n = decide (y < x) := Bool.eq_iff_iff.mpr (by simp [h.larger])
  have hsmaller : smaller.passes m n = decide (x < y) := Bool.eq_iff_iff.mpr (by simp [h.smaller])
  have hequal : equal.passes m n = decide (m = n) := Bool.eq_iff_iff.mpr (by simp [h.equal])
  simp only [List.countP_cons, List.countP_nil, hlarger, hsmaller, hequal, decide_eq_true_eq]
  by_cases heq : m = n
  · simp [heq, hsame heq]
  · rcases lt_trichotomy x y with hlt | rfl | hgt
    · simp [heq, hlt, hlt.ne, hlt.not_gt]
    · simp [heq]
    · simp [heq, hgt, hgt.ne', hgt.not_gt]

theorem apart_of_small (hm : m.natAbs ≤ 2 ^ 53) (hn : n.natAbs ≤ 2 ^ 53) : Apart m n := by
  rw [Apart, Binary64.value_ofInt hm, Binary64.value_ofInt hn, ne_eq, Int.cast_inj]
  exact em (m = n)

/-- Integers of 64 bits are compared through the doubles nearest to them, and this is the comparison
of the integers themselves unless two different ones have the same double. -/
theorem passes_integers (hm : Json.isWord m = true) (hn : Json.isWord n = true) :
    ((Binary64.ofInt m).IsNearest m ∧ (Binary64.ofInt n).IsNearest n) ∧
      ComparesAs m n (Binary64.ofInt m).value (Binary64.ofInt n).value ∧
      (Apart m n → ComparesAs m n m n) ∧
      [larger, smaller, equal].countP (·.passes m n) ≤ 1 ∧
      ([larger, smaller, equal].countP (·.passes m n) = 1 ↔ Apart m n) ∧
      (m.natAbs ≤ 2 ^ 53 → n.natAbs ≤ 2 ^ 53 → Apart m n) := by
  have h := comparesAs_value hm hn
  have hcount := count_of_comparesAs h fun heq => by rw [heq]
  refine ⟨⟨Binary64.ofInt_isNearest hm, Binary64.ofInt_isNearest hn⟩, h, comparesAs_self hm hn,
    ?_, ?_, apart_of_small⟩
  · rw [hcount]
    split <;> decide
  · rw [hcount]
    split
    · rename_i hapart
      exact iff_of_true rfl hapart
    · rename_i htogether
      exact iff_of_false (by decide) htogether

/-- The least and the greatest integer are in order. -/
theorem passes_integers_extremes :
    smaller.passes (-0x8000000000000000) 0xFFFFFFFFFFFFFFFF = true ∧
      larger.passes (-0x8000000000000000) 0xFFFFFFFFFFFFFFFF = false := by
  obtain ⟨-, -, hcompares, -⟩ := @passes_integers (-0x8000000000000000) 0xFFFFFFFFFFFFFFFF
    (by decide) (by decide)
  have hapart : Apart (-0x8000000000000000) 0xFFFFFFFFFFFFFFFF :=
    Or.inr (ne_of_lt ((Binary64.key_lt_key_iff _ _).mp (by decide)))
  obtain ⟨hlarger, hsmaller, -, -, -⟩ := hcompares hapart
  exact ⟨hsmaller.mpr (by decide), Bool.eq_false_iff.mpr fun h => absurd (hlarger.mp h) (by decide)⟩

/-- There is no double between `2 ^ 53` and `2 ^ 53 + 2`, so the integer between them is not larger
than the first, nor is it the same. -/
theorem nextInteger_notLarger :
    Json.isWord 0x20000000000001 = true ∧ Json.isWord 0x20000000000000 = true ∧
      (0x20000000000000 : Int) < 0x20000000000001 ∧
      larger.passes 0x20000000000001 0x20000000000000 = false ∧
      [larger, smaller, equal].countP (·.passes 0x20000000000001 0x20000000000000) = 0 := by
  have hkey : (Binary64.ofInt 0x20000000000001).key = (Binary64.ofInt 0x20000000000000).key := by
    decide
  have hsame :
      (Binary64.ofInt 0x20000000000001).value = (Binary64.ofInt 0x20000000000000).value := by
    rw [Binary64.value_eq, Binary64.value_eq, hkey]
  have hcompares := @comparesAs_value 0x20000000000001 0x20000000000000 (by decide) (by decide)
  refine ⟨by decide, by decide, by decide, Bool.eq_false_iff.mpr fun h => ?_, ?_⟩
  · exact absurd (hcompares.larger.mp h) (by rw [hsame]; exact lt_irrefl _)
  · rw [count_of_comparesAs hcompares (by decide), if_neg (by simp [hsame])]

end

end Operator

end DeliveryGate
