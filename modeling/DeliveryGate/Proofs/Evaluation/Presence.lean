import DeliveryGate.Evaluation.LeafCheck
import DeliveryGate.Proofs.Json.Numerals
import DeliveryGate.Proofs.Time.Elapsed

/-!
# Presence windows

Who was online within the last `n` units: whoever is online now, and whoever was seen less than
`n + 1` units ago, since only whole units count (`checkOnlineInLast_window`). For the same reason a
presence that is still to come counts as recent while it is less than one unit ahead
(`checkOnlineInLast_of_future`).
-/

namespace DeliveryGate

namespace Presence

variable {window : Int} {unit : TimeUnit} {now last : Instant} {s : Subscriber}

/-! ### What is recorded -/

theorem checkOnlineInLast_of_none :
    (checkOnlineInLast window unit none now).passed = false := rfl

theorem checkOnlineInLast_of_online (honline : s.isOnline = some true) :
    (checkOnlineInLast window unit (some s) now).passed = true := by
  have hknown : isKnown s = true := by simp [isKnown, honline]
  simp [checkOnlineInLast, Option.filter_some_pos hknown, honline]

theorem getD_of_offline (hoffline : s.isOnline ≠ some true) : s.isOnline.getD false = false := by
  cases honline : s.isOnline with
  | none => rfl
  | some flag => cases flag with
    | false => rfl
    | true => exact absurd honline hoffline

/-- Whoever is not online is judged by the time of the last presence. -/
theorem checkOnlineInLast_of_last (hoffline : s.isOnline ≠ some true)
    (hlast : s.lastOnlineAt = some last) :
    checkOnlineInLast window unit (some s) now =
      { filter := Kind.isOnlineInLast.name
        field := "lastOnlineAt"
        expected := intText window
        actual := intText (unit.elapsed now last)
        operator := .larger
        passed := 0 ≤ unit.elapsed now last && unit.elapsed now last ≤ window } := by
  have hknown : isKnown s = true := by simp [isKnown, hlast]
  simp [checkOnlineInLast, Option.filter_some_pos hknown, getD_of_offline hoffline, hlast]

/-- Without a time of presence only the flag counts. -/
theorem checkOnlineInLast_of_offline (hoffline : s.isOnline ≠ some true)
    (hlast : s.lastOnlineAt = none) :
    (checkOnlineInLast window unit (some s) now).passed = false := by
  cases hknown : isKnown s with
  | true => simp [checkOnlineInLast, Option.filter_some_pos hknown, getD_of_offline hoffline, hlast]
  | false => simp [checkOnlineInLast, Option.filter_some_neg hknown]

/-! ### The window -/

/-- The whole units that have passed are at least zero and at most `window`. -/
theorem elapsed_mem_iff : 0 ≤ unit.elapsed now last ∧ unit.elapsed now last ≤ window ↔
    0 ≤ window ∧ -unit.nanos < now.since last ∧ now.since last < (window + 1) * unit.nanos := by
  rw [unit.elapsed_nonneg_iff]
  constructor
  · rintro ⟨hlow, hhigh⟩
    have hwindow : 0 ≤ window := Int.le_trans ((unit.elapsed_nonneg_iff now last).mpr hlow) hhigh
    exact ⟨hwindow, hlow, (unit.elapsed_le_iff now last hwindow).mp hhigh⟩
  · rintro ⟨hwindow, hlow, hhigh⟩
    exact ⟨hlow, (unit.elapsed_le_iff now last hwindow).mpr hhigh⟩

theorem passed_of_last_iff (hoffline : s.isOnline ≠ some true)
    (hlast : s.lastOnlineAt = some last) :
    (checkOnlineInLast window unit (some s) now).passed = true ↔
      0 ≤ window ∧ -unit.nanos < now.since last ∧ now.since last < (window + 1) * unit.nanos := by
  rw [checkOnlineInLast_of_last hoffline hlast, ← elapsed_mem_iff]
  simp only [Bool.and_eq_true, decide_eq_true_eq]

theorem passed_iff (window : Int) (unit : TimeUnit) (subscriber : Option Subscriber)
    (now : Instant) :
    (checkOnlineInLast window unit subscriber now).passed = true ↔
      (∃ s, subscriber = some s ∧ s.isOnline = some true) ∨
      ∃ s last, subscriber = some s ∧ s.lastOnlineAt = some last ∧ 0 ≤ window ∧
        -unit.nanos < now.since last ∧ now.since last < (window + 1) * unit.nanos := by
  cases subscriber with
  | none => simp [checkOnlineInLast_of_none]
  | some s =>
    by_cases honline : s.isOnline = some true
    · simp [checkOnlineInLast_of_online honline, honline]
    · cases hlast : s.lastOnlineAt with
      | none => simp [checkOnlineInLast_of_offline honline hlast, honline, hlast]
      | some last => simp [passed_of_last_iff honline hlast, honline, hlast]

/-- What the window of a presence filter lets pass. -/
theorem checkOnlineInLast_window (window : Int) (unit : TimeUnit) (subscriber : Option Subscriber)
    (now : Instant) :
    ((checkOnlineInLast window unit subscriber now).passed = true ↔
      (∃ s, subscriber = some s ∧ s.isOnline = some true) ∨
      ∃ s last, subscriber = some s ∧ s.lastOnlineAt = some last ∧ 0 ≤ window ∧
        -unit.nanos < now.since last ∧ now.since last < (window + 1) * unit.nanos) ∧
    (∀ s last, subscriber = some s → s.isOnline ≠ some true → s.lastOnlineAt = some last →
      (checkOnlineInLast window unit subscriber now).actual
        = toString ((now.since last).tdiv unit.nanos)) ∧
    (∀ wider, window ≤ wider → (checkOnlineInLast window unit subscriber now).passed = true →
      (checkOnlineInLast wider unit subscriber now).passed = true) ∧
    ((∀ s, subscriber = some s → s.isOnline = none ∧ s.lastOnlineAt = none) →
      (checkOnlineInLast window unit subscriber now).passed = false) := by
  refine ⟨passed_iff window unit subscriber now, ?_, ?_, ?_⟩
  · rintro s last rfl hoffline hlast
    rw [checkOnlineInLast_of_last hoffline hlast, ← unit.elapsed_eq_tdiv]
    exact Json.ofList_renderInt _
  · intro wider hwider hpassed
    rw [passed_iff] at hpassed ⊢
    rcases hpassed with honline | ⟨s, last, hs, hlast, hwindow, hlow, hhigh⟩
    · exact Or.inl honline
    · have hunits : (window + 1) * unit.nanos ≤ (wider + 1) * unit.nanos :=
        Int.mul_le_mul_of_nonneg_right (by omega) (Int.le_of_lt unit.nanos_pos)
      exact Or.inr ⟨s, last, hs, hlast, by omega, hlow, by omega⟩
  · intro hunknown
    cases subscriber with
    | none => rfl
    | some s =>
      obtain ⟨honline, hlast⟩ := hunknown s rfl
      exact checkOnlineInLast_of_offline (by simp [honline]) hlast

/-! ### Presence that is still to come -/

/-- A presence that is still to come lets a filter pass exactly if it is less than one unit ahead
and the window is not negative: the whole units to it are none. -/
theorem checkOnlineInLast_of_future (hoffline : s.isOnline ≠ some true)
    (hlast : s.lastOnlineAt = some last) (hfuture : now.lt last = true)
    (hnow : now.nanos < 2 * Instant.second) :
    (checkOnlineInLast window unit (some s) now).passed = true ↔
      0 ≤ window ∧ last.since now < unit.nanos := by
  have hahead : now.since last < unit.nanos :=
    Int.lt_of_lt_of_le (Instant.since_lt_of_lt hfuture hnow) unit.second_le_nanos
  rw [passed_of_last_iff hoffline hlast, Instant.since_swap now last]
  constructor
  · rintro ⟨hwindow, hlow, -⟩
    exact ⟨hwindow, by omega⟩
  · rintro ⟨hwindow, hlow⟩
    have hunits : 1 * unit.nanos ≤ (window + 1) * unit.nanos :=
      Int.mul_le_mul_of_nonneg_right (by omega) (Int.le_of_lt unit.nanos_pos)
    exact ⟨hwindow, by omega, by omega⟩

/-- A subscriber who is offline and was last seen at this time. -/
def seenAt (last : Instant) : Subscriber :=
  { id := "sub-1", isOnline := some false, lastOnlineAt := some last }

/-- Between a leap second and the day after it the difference has the wrong sign; even a window of
no units lets such a presence pass. -/
theorem checkOnlineInLast_of_future_leapSecond :
    (checkOnlineInLast 0 .minutes (some (seenAt ⟨1483228800, 200000000⟩))
      ⟨1483228799, 1500000000⟩).passed = true :=
  (checkOnlineInLast_of_future (by decide) rfl (by decide) (by decide)).mpr (by decide)

/-- Half a minute ahead is no minute. -/
theorem soonPresence_passes :
    (checkOnlineInLast 5 .minutes (some (seenAt ⟨1709294430, 0⟩)) ⟨1709294400, 0⟩).passed = true :=
  by decide

end Presence

end DeliveryGate
