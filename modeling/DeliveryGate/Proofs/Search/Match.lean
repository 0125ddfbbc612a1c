import Mathlib.Data.List.Basic

/-!
# First and last matches

The first and the last of some rows that have a property, told by what stands before or behind
them, and the searches that find them (`find?_eq_some_iff_isFirst`,
`find?_reverse_eq_some_iff_isLast`).
-/

namespace DeliveryGate

variable {α : Type}

/-- The first of some rows that have a property. -/
def IsFirst {α : Type} (p : α → Prop) (rows : List α) (row : α) : Prop :=
  p row ∧ ∃ before after, rows = before ++ row :: after ∧ ∀ other ∈ before, ¬p other

/-- The last of some rows that have a property. -/
def IsLast (p : α → Prop) (rows : List α) (row : α) : Prop :=
  p row ∧ ∃ before after, rows = before ++ row :: after ∧ ∀ other ∈ after, ¬p other

theorem find?_eq_some_iff_isFirst {α : Type} {p : α → Prop} {f : α → Bool}
    (h : ∀ a, f a = true ↔ p a) {rows : List α} {row : α} :
    rows.find? f = some row ↔ IsFirst p rows row := by
  rw [List.find?_eq_some_iff_append, IsFirst, h]
  simp only [Bool.not_eq_true', ← Bool.not_eq_true, h]

theorem isFirst_reverse_iff {p : α → Prop} {rows : List α} {row : α} :
    IsFirst p rows.reverse row ↔ IsLast p rows row := by
  refine and_congr_right fun _ => ⟨?_, ?_⟩
  · rintro ⟨before, after, heq, hbefore⟩
    refine ⟨after.reverse, before.reverse, ?_, fun other hother =>
      hbefore other (List.mem_reverse.mp hother)⟩
    rw [← List.reverse_reverse rows, heq]
    simp
  · rintro ⟨before, after, rfl, hafter⟩
    exact ⟨after.reverse, before.reverse, by simp, fun other hother =>
      hafter other (List.mem_reverse.mp hother)⟩

theorem find?_reverse_eq_some_iff_isLast {p : α → Prop} {f : α → Bool}
    (h : ∀ a, f a = true ↔ p a) {rows : List α} {row : α} :
    rows.reverse.find? f = some row ↔ IsLast p rows row := by
  rw [find?_eq_some_iff_isFirst h, isFirst_reverse_iff]

end DeliveryGate
