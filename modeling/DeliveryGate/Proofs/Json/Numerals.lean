import DeliveryGate.Json.Numeral
import DeliveryGate.Json.Printer
import Mathlib.Data.Nat.Log

/-!
# Numerals and their values

An integer of 64 bits is read back from its decimal text (`Numeral.read?_renderInt`,
`Numeral.value?_ofInt`), wherever what follows the text is no part of a numeral.
Whatever value a numeral denotes is one that a JSON value may hold: an integer of 64 bits or a
finite double (`Numeral.value?_cases`).
-/

namespace DeliveryGate

/-! ### Digits -/

namespace Number

theorem digit?_of_isDigit {c : Char} (h : c.isDigit = true) :
    digit? c = some (c.toNat - '0'.toNat) := by
  rw [Char.isDigit, Bool.and_eq_true, decide_eq_true_eq, decide_eq_true_eq] at h
  exact if_pos h

theorem isDigit_of_isDigit {c : Char} (h : c.isDigit = true) : isDigit c = true := by
  rw [isDigit, digit?_of_isDigit h]
  rfl

end Number

namespace Binary64

theorem isDigit_of_mem_decimalDigits {n : Nat} {c : Char} (h : c ∈ decimalDigits n) :
    c.isDigit = true := Nat.isDigit_of_mem_toDigits (by decide) (Nat.le_refl _) h

theorem decimalDigits_ne_nil (n : Nat) : decimalDigits n ≠ [] := Nat.toDigits_ne_nil

theorem exists_cons_decimalDigits (n : Nat) :
    ∃ c rest, decimalDigits n = c :: rest ∧ c.isDigit = true := by
  obtain ⟨c, rest, h⟩ := List.exists_cons_of_ne_nil (decimalDigits_ne_nil n)
  exact ⟨c, rest, h, isDigit_of_mem_decimalDigits (h ▸ List.mem_cons_self ..)⟩

/-- The digits of a number denote it. -/
theorem ofDigits_decimalDigits (n : Nat) : Number.ofDigits (decimalDigits n) = n := by
  have hstep : ∀ (cs : List Char) (start : Nat), (∀ c ∈ cs, c.isDigit = true) →
      cs.foldl (fun n c => 10 * n + (Number.digit? c).getD 0) start
        = Nat.ofDigitChars 10 cs start := by
    intro cs
    induction cs with
    | nil => exact fun _ _ => rfl
    | cons c rest ih =>
      intro start h
      rw [List.foldl_cons, Number.digit?_of_isDigit (h c (List.mem_cons_self ..)),
        Option.getD_some, ih _ fun c hc => h c (List.mem_cons_of_mem _ hc)]
      rfl
  rw [Number.ofDigits, hstep _ _ fun c => isDigit_of_mem_decimalDigits]
  exact Nat.ofDigitChars_ten_toDigits

/-- Only zero is written with a zero in front. -/
theorem head?_decimalDigits {n : Nat} (h : 0 < n) : (decimalDigits n).head? ≠ some '0' := by
  induction n using Nat.strongRecOn with
  | ind n ih =>
    rw [decimalDigits, Nat.toDigits_eq_if (by decide)]
    split
    · rename_i hsmall
      have hdigit : ∀ d < 10, 0 < d → [Nat.digitChar d].head? ≠ some '0' := by decide
      exact hdigit n hsmall h
    · have hfirst := ih (n / 10) (by omega) (by omega)
      rw [decimalDigits] at hfirst
      obtain ⟨digit, digits, hdigits⟩ :=
        List.exists_cons_of_ne_nil (Nat.toDigits_ne_nil : Nat.toDigits 10 (n / 10) ≠ [])
      rw [hdigits] at hfirst ⊢
      exact hfirst

end Binary64

namespace Json

/-- An integer is written in its usual decimal text. -/
theorem ofList_renderInt (n : Int) : String.ofList (renderInt n) = toString n := by
  cases n with
  | ofNat m => rfl
  | negSucc m =>
    rw [renderInt, if_pos (Int.negSucc_lt_zero m)]
    exact @String.ofList_append ['-'] _

/-- What may follow a numeral in a text, because it does not go on like one. -/
def Closes (rest : List Char) : Prop :=
  ∀ c ∈ rest.head?, Number.isDigit c = false ∧ c ≠ '.' ∧ c ≠ 'e' ∧ c ≠ 'E'

namespace Numeral

/-! ### Integers -/

theorem digits?_append {digits rest : List Char} (hne : digits ≠ [])
    (hdigits : ∀ c ∈ digits, c.isDigit = true) (hrest : Closes rest) :
    digits? (digits ++ rest) = some (digits, rest) := by
  have hall : ∀ c ∈ digits, Number.isDigit c = true := fun c h =>
    Number.isDigit_of_isDigit (hdigits c h)
  have hstop : rest.takeWhile Number.isDigit = [] ∧ rest.dropWhile Number.isDigit = rest := by
    cases rest with
    | nil => exact ⟨rfl, rfl⟩
    | cons c rest =>
      have hc : ¬Number.isDigit c = true := by simp [(hrest c rfl).1]
      exact ⟨List.takeWhile_cons_of_neg hc, List.dropWhile_cons_of_neg hc⟩
  rw [digits?, List.takeWhile_append_of_pos hall, List.dropWhile_append_of_pos hall, hstop.1,
    hstop.2, List.append_nil]
  simp [hne]

theorem whole?_decimalDigits (n : Nat) {rest : List Char} (hrest : Closes rest) :
    whole? (Binary64.decimalDigits n ++ rest) = some (Binary64.decimalDigits n, rest) := by
  rw [whole?, digits?_append (Binary64.decimalDigits_ne_nil n)
    (fun c => Binary64.isDigit_of_mem_decimalDigits) hrest]
  split
  · rename_i digit more _ h
    have hdigits : Binary64.decimalDigits n = '0' :: digit :: more := by
      simpa using congrArg (Option.map Prod.fst) h
    rcases Nat.eq_zero_or_pos n with rfl | hpos
    · cases hdigits
    · exact absurd (by rw [hdigits]; rfl) (Binary64.head?_decimalDigits hpos)
  · rfl

/-- The numeral of an integer. -/
def ofInt (n : Int) : Numeral := ⟨n < 0, Binary64.decimalDigits n.natAbs, [], none⟩

/-- The text of an integer is read as its numeral. -/
theorem read?_renderInt (n : Int) {rest : List Char} (hrest : Closes rest) :
    read? (renderInt n ++ rest) = some (ofInt n, rest) := by
  have hfraction : fraction? rest = some ([], rest) := by
    cases rest with
    | nil => rfl
    | cons c rest =>
      rw [fraction?]
      exact fun _ h => (hrest c rfl).2.1 (List.cons.inj h).1
  have hexponent : exponent? rest = some (none, rest) := by
    cases rest with
    | nil => rfl
    | cons c rest => simp [exponent?, (hrest c rfl).2.2]
  by_cases hneg : n < 0
  · rw [renderInt, if_pos hneg, ofInt, decide_eq_true hneg, List.cons_append, read?]
    simp [whole?_decimalDigits n.natAbs hrest, hfraction, hexponent]
  · rw [renderInt, if_neg hneg, ofInt, decide_eq_false hneg, read?]
    · simp [whole?_decimalDigits n.natAbs hrest, hfraction, hexponent]
    · -- the first digit is no sign
      intro tail h
      obtain ⟨digit, digits, hdigits, hdigit⟩ := Binary64.exists_cons_decimalDigits n.natAbs
      rw [hdigits, List.cons_append, List.cons.injEq] at h
      rw [h.1] at hdigit
      exact absurd hdigit (by decide)

/-- The numeral of an integer of 64 bits denotes it. -/
theorem value?_ofInt {n : Int} (hn : isWord n = true) : (ofInt n).value? = some (.int n) := by
  rw [isWord, Bool.and_eq_true, decide_eq_true_eq, decide_eq_true_eq] at hn
  have hmagnitude : n.natAbs < 0x10000000000000000 := by omega
  have hword : (([] : List Char).isEmpty && (none : Option Int).isNone &&
      decide (n.natAbs < 0x10000000000000000)) = true := decide_eq_true hmagnitude
  rw [value?, ofInt, Binary64.ofDigits_decimalDigits]
  dsimp only
  rw [if_pos hword]
  by_cases hneg : n < 0
  · have hbound : (decide (0 < n.natAbs) && decide (n.natAbs ≤ 0x8000000000000000)) = true := by
      rw [Bool.and_eq_true, decide_eq_true_eq, decide_eq_true_eq]
      omega
    have hvalue : -(n.natAbs : Int) = n := by omega
    rw [decide_eq_true hneg, if_neg (by decide), if_pos hbound, hvalue]
  · have hvalue : (n.natAbs : Int) = n := by omega
    rw [decide_eq_false hneg, if_pos (by decide), hvalue]

/-! ### Doubles -/

end Numeral

end Json

namespace Binary64

theorem magnitude_ofMagnitude (negative : Bool) {m : Nat} (h : m < 0x8000000000000000) :
    (ofMagnitude negative m).magnitude = m := by
  cases negative <;> simp [magnitude, ofMagnitude, Nat.toUInt64] <;> omega

theorem isFinite_ofMagnitude (negative : Bool) {m : Nat} (h : m < infiniteMagnitude) :
    (ofMagnitude negative m).isFinite = true := by
  have hbound : m < 0x8000000000000000 := Nat.lt_trans h (by decide)
  rw [isFinite, magnitude_ofMagnitude negative hbound]
  exact decide_eq_true h

theorem isFinite_neg {x : Binary64} (h : x.isFinite = true) : x.neg.isFinite = true :=
  isFinite_ofMagnitude _ (of_decide_eq_true h)

theorem isFinite_signed (negative : Bool) {x : Binary64} (h : x.isFinite = true) :
    (if negative then x.neg else x).isFinite = true := by
  cases negative with
  | true => exact isFinite_neg h
  | false => exact h

theorem roundHalfEven_le (num den : Nat) : roundHalfEven num den ≤ num / den + 1 := by
  rw [roundHalfEven]
  split <;> omega

theorem floorLog2_one {n : Nat} (h : n ≠ 0) : floorLog2 n 1 = n.log2 := by
  have hle : ¬n < 1 <<< n.log2 := by
    rw [Nat.one_shiftLeft, Nat.not_lt]
    exact Nat.log2_self_le h
  have hguess : ((n.log2 : Int) - (Nat.log2 1 : Nat)) = n.log2 := by
    rw [show Nat.log2 1 = 0 by decide]
    exact Int.sub_zero _
  simp only [floorLog2, hguess]
  rw [if_neg]
  simpa using hle

/-- What scaling leaves of a number is its 53 leading bits. -/
theorem scaled_lt {n : Nat} :
    (n <<< (-((n.log2 : Int) - 52)).toNat) / (1 <<< ((n.log2 : Int) - 52).toNat)
      < 0x20000000000000 := by
  have hlt : n < 2 ^ (n.log2 + 1) := Nat.lt_log2_self
  rw [Nat.one_shiftLeft, Nat.shiftLeft_eq, show 0x20000000000000 = 2 ^ 53 by decide]
  rcases Nat.lt_or_ge n.log2 52 with hsmall | hlarge
  · have hup : (-((n.log2 : Int) - 52)).toNat = 52 - n.log2 := by omega
    have hdown : ((n.log2 : Int) - 52).toNat = 0 := by omega
    rw [hup, hdown, Nat.pow_zero, Nat.div_one]
    calc n * 2 ^ (52 - n.log2) < 2 ^ (n.log2 + 1) * 2 ^ (52 - n.log2) :=
          Nat.mul_lt_mul_of_pos_right hlt (Nat.two_pow_pos _)
      _ = 2 ^ 53 := by rw [← Nat.pow_add]; congr 1; omega
  · have hup : (-((n.log2 : Int) - 52)).toNat = 0 := by omega
    have hdown : ((n.log2 : Int) - 52).toNat = n.log2 - 52 := by omega
    rw [hup, hdown, Nat.pow_zero, Nat.mul_one, Nat.div_lt_iff_lt_mul (Nat.two_pow_pos _),
      ← Nat.pow_add]
    calc n < 2 ^ (n.log2 + 1) := hlt
      _ = 2 ^ (53 + (n.log2 - 52)) := by congr 1; omega

/-- A number of 64 bits is far from too large for a double. -/
theorem isFinite_ofNat {n : Nat} (h : n < 0x10000000000000000) : (ofNat n).isFinite = true := by
  rw [ofNat, ofRatio]
  split
  · exact isFinite_ofMagnitude _ (by decide)
  · rename_i hzero
    have hne : n ≠ 0 := by simpa using hzero
    have hlog : n.log2 < 64 := (Nat.log2_lt hne).mpr h
    have hunit : max (floorLog2 n 1 - 52) leastExponent = (n.log2 : Int) - 52 := by
      rw [floorLog2_one hne, leastExponent]
      omega
    refine isFinite_ofMagnitude _ ?_
    rw [hunit]
    have hdigits := roundHalfEven_le (n <<< (-((n.log2 : Int) - 52)).toNat)
      (1 <<< ((n.log2 : Int) - 52).toNat)
    have hscaled : (n <<< (-((n.log2 : Int) - 52)).toNat) / (1 <<< ((n.log2 : Int) - 52).toNat)
      < 0x20000000000000 := scaled_lt
    have hexponent : ((n.log2 : Int) - 52 - leastExponent).toNat ≤ 1085 := by
      rw [leastExponent]
      omega
    rw [infiniteMagnitude]
    omega

end Binary64

namespace Json

namespace Numeral

theorem scaled?_isFinite {negative : Bool} {significand : Nat} {exponent : Int} {x : Binary64}
    (h : scaled? negative significand exponent = some x) : x.isFinite = true := by
  simp only [scaled?, Option.ite_none_right_eq_some] at h
  obtain ⟨hfinite, h⟩ := h
  rw [← Option.some.inj h]
  exact Binary64.isFinite_signed negative hfinite

/-- A numeral denotes an integer of 64 bits or a finite double, if it denotes anything. -/
theorem value?_cases {n : Numeral} {value : Json} (h : n.value? = some value) :
    (∃ m, isWord m = true ∧ value = .int m) ∨ ∃ x, x.isFinite = true ∧ value = .double x := by
  rw [value?] at h
  split at h
  · rename_i hword
    have hmagnitude : Number.ofDigits n.whole < 0x10000000000000000 := by
      simpa using (Bool.and_eq_true_iff.mp hword).2
    split at h
    · cases h
      refine Or.inl ⟨_, ?_, rfl⟩
      rw [isWord, Bool.and_eq_true, decide_eq_true_eq, decide_eq_true_eq]
      omega
    · split at h
      · rename_i hbound
        cases h
        refine Or.inl ⟨_, ?_, rfl⟩
        simp only [Bool.and_eq_true, decide_eq_true_eq] at hbound
        rw [isWord, Bool.and_eq_true, decide_eq_true_eq, decide_eq_true_eq]
        omega
      · cases h
        exact Or.inr ⟨_, Binary64.isFinite_neg (Binary64.isFinite_ofNat hmagnitude), rfl⟩
  · obtain ⟨x, hx, rfl⟩ := Option.map_eq_some_iff.mp h
    exact Or.inr ⟨x, scaled?_isFinite hx, rfl⟩

end Numeral

end Json

end DeliveryGate
