import DeliveryGate.Proofs.Json.Numerals
import DeliveryGate.Text.Blank
import Mathlib.Algebra.Group.Nat.Defs

/-!
# Digits

What a run of digits denotes (`Number.Spells`), and which texts are read as unsigned numerals: an
optional plus sign and such a run, if its number is below the bound
(`Number.unsigned?_eq_some_iff`).
-/

namespace DeliveryGate

namespace Number

theorem digit?_getD_le (c : Char) : (digit? c).getD 0 ≤ 9 := by
  rw [digit?]
  split
  · rename_i h
    have hle : c.toNat ≤ 57 := h.2
    change c.toNat - 48 ≤ 9
    omega
  · exact Nat.zero_le 9

theorem ofDigits_lt (cs : List Char) : ofDigits cs < 10 ^ cs.length := by
  have hstep : ∀ (cs : List Char) (start : Nat),
      cs.foldl (fun n c => 10 * n + (digit? c).getD 0) start < (start + 1) * 10 ^ cs.length := by
    intro cs
    induction cs with
    | nil => exact fun start => by simp
    | cons c rest ih =>
      intro start
      have hdigit := digit?_getD_le c
      calc _ < (10 * start + (digit? c).getD 0 + 1) * 10 ^ rest.length := ih _
        _ ≤ (start + 1) * 10 * 10 ^ rest.length := Nat.mul_le_mul_right _ (by omega)
        _ = (start + 1) * 10 ^ (rest.length + 1) := by rw [Nat.pow_succ']; ac_rfl
  simpa [ofDigits] using hstep cs 0

/-- Zeros in front do not count. -/
theorem ofDigits_zeros (k : Nat) (cs : List Char) :
    ofDigits (List.replicate k '0' ++ cs) = ofDigits cs := by
  induction k with
  | zero => rfl
  | succ k ih =>
    rw [← ih]
    rfl

theorem isBlank_of_isDigit {c : Char} (h : isDigit c = true) : Text.isBlank c = false := by
  rw [isDigit, digit?] at h
  split at h
  · rename_i hdigit
    have hlow : 48 ≤ c.toNat := hdigit.1
    have hhigh : c.toNat ≤ 57 := hdigit.2
    simp [Text.isBlank]
    omega
  · cases h

/-- These are digits of this number. -/
structure Spells (digits : List Char) (n : Nat) : Prop where
  ne_nil : digits ≠ []
  isDigit : ∀ c ∈ digits, Number.isDigit c = true
  value : ofDigits digits = n

theorem Spells.trimStart {digits : List Char} {n : Nat} (h : Spells digits n) (rest : List Char) :
    Text.trimStart (digits ++ rest) = digits ++ rest := by
  obtain ⟨c, cs, rfl⟩ := List.exists_cons_of_ne_nil h.ne_nil
  have hblank := isBlank_of_isDigit (h.isDigit c (List.mem_cons_self ..))
  rw [Text.trimStart, List.cons_append, List.dropWhile_cons_of_neg (by simp [hblank])]

/-- Digits do not start with anything else. -/
theorem Spells.ne_cons {digits : List Char} {n : Nat} (h : Spells digits n) {c : Char}
    (hc : Number.isDigit c = false) (rest others : List Char) : digits ++ rest ≠ c :: others := by
  obtain ⟨d, ds, rfl⟩ := List.exists_cons_of_ne_nil h.ne_nil
  have hd := h.isDigit d (List.mem_cons_self ..)
  intro heq
  rw [(List.cons.inj heq).1, hc] at hd
  cases hd

theorem spells_decimalDigits (n : Nat) : Spells (Binary64.decimalDigits n) n where
  ne_nil := Binary64.decimalDigits_ne_nil n
  isDigit _ hc := isDigit_of_isDigit (Binary64.isDigit_of_mem_decimalDigits hc)
  value := Binary64.ofDigits_decimalDigits n

/-! ### Unsigned numerals -/

/-- Only the digits of a decimal numeral are digits in base ten. -/
theorem digitIn?_ten (c : Char) : digitIn? 10 c = digit? c := by
  have hnone (h : ¬c.toNat ≤ 57) : digit? c = none := if_neg fun hdigit => h hdigit.2
  rw [digitIn?]
  split
  · rename_i hletter
    have hlow : 97 ≤ c.toNat := hletter.1
    rw [hnone (by omega), Option.filter_some_neg (by simp)]
  split
  · rename_i hletter
    have hlow : 65 ≤ c.toNat := hletter.1
    rw [hnone (by omega), Option.filter_some_neg (by simp)]
  · cases hdigit : digit? c with
    | none => rfl
    | some d =>
      have hle := digit?_getD_le c
      rw [hdigit, Option.getD_some] at hle
      exact Option.filter_some_pos (by simp; omega)

theorem ofDigitsIn?_ten_eq_some_iff {cs : List Char} {n : Nat} :
    ofDigitsIn? 10 cs = some n ↔ Spells cs n := by
  -- the fold stops at the first character that is no digit, whatever number it has come to
  have hfold : ∀ (cs : List Char) (start : Nat),
      cs.foldlM (fun n c => (digitIn? 10 c).map (10 * n + ·)) start = some n ↔
        (∀ c ∈ cs, isDigit c = true) ∧
          cs.foldl (fun n c => 10 * n + (digit? c).getD 0) start = n := by
    intro cs
    induction cs with
    | nil => simp
    | cons c rest ih =>
      intro start
      rw [List.foldlM_cons, digitIn?_ten, List.forall_mem_cons, List.foldl_cons, isDigit]
      cases digit? c with
      | none => simp
      | some d => simpa using ih (10 * start + d)
  rw [ofDigitsIn?]
  split
  · rename_i hempty
    rw [List.isEmpty_iff] at hempty
    exact ⟨fun h => absurd h.symm (Option.some_ne_none n), fun h => absurd hempty h.ne_nil⟩
  · rename_i hnonempty
    rw [List.isEmpty_iff] at hnonempty
    rw [hfold]
    exact ⟨fun h => ⟨hnonempty, h.1, h.2⟩, fun h => ⟨h.isDigit, h.value⟩⟩

/-- The text of a number: digits of it, perhaps with a plus sign in front. -/
def Denotes (cs : List Char) (n : Nat) : Prop :=
  ∃ digits, (cs = digits ∨ cs = '+' :: digits) ∧ Spells digits n

theorem unsigned?_eq_some_iff {bound n : Nat} {cs : List Char} :
    unsigned? bound cs = some n ↔ Denotes cs n ∧ n < bound := by
  simp only [unsigned?.eq_def, Option.filter_eq_some_iff, decide_eq_true_eq]
  refine and_congr_left fun _ => ?_
  rw [ofDigitsIn?_ten_eq_some_iff]
  -- a plus sign is no digit, so a text that begins with one can only have it in front
  split
  · rename_i rest
    constructor
    · exact fun h => ⟨rest, Or.inr rfl, h⟩
    · rintro ⟨digits, rfl | heq, h⟩
      · exact absurd (List.append_nil _) (h.ne_cons rfl [] rest)
      · exact (List.cons.inj heq).2 ▸ h
  · rename_i hsign
    constructor
    · exact fun h => ⟨cs, Or.inl rfl, h⟩
    · rintro ⟨digits, rfl | rfl, h⟩
      · exact h
      · exact absurd rfl (hsign digits)

end Number

end DeliveryGate
