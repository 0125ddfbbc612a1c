import DeliveryGate.Time.Instant

/-!
# Elapsed units

The difference of two instants changes its sign when they are exchanged (`Instant.since_swap`), and
its whole units are counted toward zero: seconds first and then the unit is the same as the unit at
once (`TimeUnit.elapsed_eq_tdiv`). So the count is at most `n`, for an `n` that is not negative,
exactly below `n + 1` units, and it is not negative already from minus one unit on.

A difference may also be kept as a `Span`, seconds rounded down and the nanoseconds above them.
Below zero its whole seconds are then one more, unless no nanoseconds are left
(`Span.wholeSeconds_eq_tdiv`). The main theorem, `TimeUnit.elapsed_consistent`, says that the units
count these whole seconds and agree with one another.
-/

namespace DeliveryGate

/-! ### Division toward zero -/

/-- Below zero the quotient is that of the way back. -/
theorem tdiv_of_nonpos {d : Int} (hd : d ≤ 0) (a : Int) : d.tdiv a = -(-d / a) := by
  rw [← Int.tdiv_eq_ediv_of_nonneg (Int.neg_nonneg_of_nonpos hd), Int.neg_tdiv, Int.neg_neg]

/-- To cut off twice is to cut off once. -/
theorem tdiv_tdiv {d a : Int} (ha : 0 ≤ a) (b : Int) : (d.tdiv a).tdiv b = d.tdiv (b * a) := by
  rcases Int.le_total 0 d with hd | hd
  · rw [Int.tdiv_eq_ediv_of_nonneg (Int.tdiv_nonneg hd ha), Int.tdiv_eq_ediv_of_nonneg hd,
      Int.tdiv_eq_ediv_of_nonneg hd, Int.ediv_ediv_of_nonneg ha, Int.mul_comm]
  · have hback : 0 ≤ -d / a := Int.ediv_nonneg (Int.neg_nonneg_of_nonpos hd) ha
    rw [tdiv_of_nonpos hd, tdiv_of_nonpos hd, Int.neg_tdiv, Int.tdiv_eq_ediv_of_nonneg hback,
      Int.ediv_ediv_of_nonneg ha, Int.mul_comm]

/-! ### The difference of two instants -/

namespace Instant

theorem leapBetween_swap (now start : Instant) :
    start.leapBetween now = -now.leapBetween start := by
  rw [leapBetween, leapBetween]
  by_cases hback : now.timeOfDay < start.timeOfDay
  · have hforth : ¬start.timeOfDay < now.timeOfDay := by omega
    rw [if_pos hback, if_neg hforth, if_pos hback]
    cases now.isLeap <;> rfl
  · rw [if_neg hback, if_neg hback]
    by_cases hforth : start.timeOfDay < now.timeOfDay
    · rw [if_pos hforth, if_pos hforth]
      cases start.isLeap <;> rfl
    · rw [if_neg hforth, if_neg hforth]
      rfl

/-- The way back is as long as the way there. -/
theorem since_swap (now start : Instant) : start.since now = -now.since start := by
  rw [since, since, leapBetween_swap, second]
  omega

theorem leapBetween_le (now start : Instant) :
    now.leapBetween start ≤ if start.isLeap then 1 else 0 := by
  rw [leapBetween]
  cases start.isLeap <;> cases now.isLeap <;> grind

theorem leapBetween_of_seconds {now start : Instant} (h : now.seconds = start.seconds) :
    now.leapBetween start = 0 := by
  rw [leapBetween, timeOfDay, timeOfDay, h, if_neg (Int.lt_irrefl _), if_neg (Int.lt_irrefl _)]

/-- What is later has not passed a second ago. A leap second between two days is missed by the
difference, so it may be positive for an instant that is still to come. -/
theorem since_lt_of_lt {now later : Instant} (hlater : now.lt later = true)
    (hnow : now.nanos < 2 * second) : now.since later < second := by
  simp only [lt, Bool.or_eq_true, Bool.and_eq_true, decide_eq_true_eq, beq_iff_eq] at hlater
  rw [since]
  rcases hlater with hseconds | ⟨hseconds, hnanos⟩
  · have hleap := leapBetween_le now later
    split at hleap
    · rename_i hlater
      rw [isLeap, decide_eq_true_eq] at hlater
      rw [second] at *
      omega
    · rw [second] at *
      omega
  · rw [leapBetween_of_seconds hseconds, hseconds, second]
    omega

end Instant

/-! ### Differences as seconds and nanoseconds -/

/-- A stretch of time: its seconds, rounded down, and the nanoseconds above them. -/
structure Span where
  seconds : Int
  nanos : Nat
  nanos_lt : nanos < Instant.second

namespace Span

/-- The length in nanoseconds. -/
def total (span : Span) : Int := span.seconds * Instant.second + span.nanos

/-- The whole seconds, counted toward zero. Below zero, `seconds` also counts the one that has only
begun. -/
def wholeSeconds (span : Span) : Int :=
  if span.seconds < 0 ∧ 0 < span.nanos then span.seconds + 1 else span.seconds

theorem wholeSeconds_eq_tdiv (span : Span) :
    span.wholeSeconds = span.total.tdiv Instant.second := by
  have hnanos := span.nanos_lt
  rcases Int.lt_or_le span.seconds 0 with hneg | hnonneg
  · -- what is rounded down here is rounded up on the way back
    have htotal : span.total ≤ 0 := by
      rw [total, Instant.second] at *
      omega
    rw [tdiv_of_nonpos htotal, wholeSeconds, total]
    rw [Instant.second] at *
    split <;> omega
  · have htotal : 0 ≤ span.total := by
      rw [total, Instant.second]
      omega
    rw [Int.tdiv_eq_ediv_of_nonneg htotal, wholeSeconds, if_neg (by omega), total]
    rw [Instant.second] at *
    omega

end Span

namespace Instant

/-- The time from `start` to `now` in seconds and nanoseconds. -/
def spanSince (now start : Instant) : Span where
  seconds := now.seconds - start.seconds + leapBetween now start
    + ((now.nanos : Int) - start.nanos) / second
  nanos := (((now.nanos : Int) - start.nanos) % second).toNat
  nanos_lt := by
    rw [second]
    omega

theorem total_spanSince (now start : Instant) : (now.spanSince start).total = now.since start := by
  simp only [Span.total, spanSince, since, second]
  omega

end Instant

/-! ### Whole units -/

namespace TimeUnit

theorem seconds_nonneg (unit : TimeUnit) : 0 ≤ unit.seconds := by
  cases unit <;> decide

/-- The length of a unit in nanoseconds. -/
def nanos : TimeUnit → Int
  | minutes => 60 * 1000000000
  | hours => 60 * 60 * 1000000000
  | days => 24 * 60 * 60 * 1000000000

theorem nanos_eq (unit : TimeUnit) : unit.nanos = unit.seconds * Instant.second := by
  cases unit <;> rfl

theorem second_le_nanos (unit : TimeUnit) : (Instant.second : Int) ≤ unit.nanos := by
  cases unit <;> decide

theorem nanos_pos (unit : TimeUnit) : 0 < unit.nanos :=
  Int.lt_of_lt_of_le (by decide) unit.second_le_nanos

section

variable (unit : TimeUnit) (now start : Instant)

theorem elapsed_eq_tdiv : unit.elapsed now start = (now.since start).tdiv unit.nanos := by
  rw [elapsed, tdiv_tdiv (by decide), nanos_eq]

theorem elapsed_nonneg_iff : 0 ≤ unit.elapsed now start ↔ -unit.nanos < now.since start := by
  have hpos := unit.nanos_pos
  rw [elapsed_eq_tdiv]
  rcases Int.le_total 0 (now.since start) with hsince | hsince
  · exact iff_of_true (Int.tdiv_nonneg hsince (Int.le_of_lt hpos)) (by omega)
  · have hsmall : -now.since start / unit.nanos < 1 ↔ -now.since start < 1 * unit.nanos :=
      Int.ediv_lt_iff_lt_mul hpos
    rw [tdiv_of_nonpos hsince]
    omega

theorem elapsed_le_iff {n : Int} (hn : 0 ≤ n) :
    unit.elapsed now start ≤ n ↔ now.since start < (n + 1) * unit.nanos := by
  have hpos := unit.nanos_pos
  rw [elapsed_eq_tdiv]
  rcases Int.le_total 0 (now.since start) with hsince | hsince
  · rw [Int.tdiv_eq_ediv_of_nonneg hsince, ← Int.ediv_lt_iff_lt_mul hpos]
    omega
  · have hbound : 0 < (n + 1) * unit.nanos := Int.mul_pos (by omega) hpos
    have hback : 0 ≤ -now.since start / unit.nanos :=
      Int.ediv_nonneg (Int.neg_nonneg_of_nonpos hsince) (Int.le_of_lt hpos)
    rw [tdiv_of_nonpos hsince]
    exact iff_of_true (by omega) (by omega)

theorem elapsed_eq_wholeSeconds :
    unit.elapsed now start = (now.spanSince start).wholeSeconds.tdiv unit.seconds := by
  rw [Span.wholeSeconds_eq_tdiv, Instant.total_spanSince, elapsed]

/-- No unit gains or loses on the way back. -/
theorem elapsed_swap : unit.elapsed start now = -unit.elapsed now start := by
  rw [elapsed_eq_tdiv, elapsed_eq_tdiv, Instant.since_swap, Int.neg_tdiv]

/-- A unit as long as `n` others counts once for every `n` of them. -/
theorem elapsed_of_multiple {coarse fine : TimeUnit} {n : Int}
    (hunits : coarse.seconds = n * fine.seconds) :
    coarse.elapsed now start = (fine.elapsed now start).tdiv n := by
  rw [elapsed, elapsed, tdiv_tdiv fine.seconds_nonneg, hunits]

end

theorem elapsed_mono (unit : TimeUnit) {now start now' start' : Instant}
    (hsince : now.since start ≤ now'.since start') :
    unit.elapsed now start ≤ unit.elapsed now' start' := by
  rw [elapsed_eq_tdiv, elapsed_eq_tdiv]
  exact Int.tdiv_le_tdiv unit.nanos_pos hsince

/-- Every unit counts the whole seconds of the difference toward zero. So it counts the same in both
directions, hours and days are counted from the next smaller unit with nothing lost, and a longer
difference is never counted as fewer units. -/
theorem elapsed_consistent (now start : Instant) :
    (∀ unit : TimeUnit,
      unit.elapsed now start = (now.spanSince start).wholeSeconds.tdiv unit.seconds) ∧
    (∀ unit : TimeUnit, unit.elapsed now start = -unit.elapsed start now) ∧
    hours.elapsed now start = (minutes.elapsed now start).tdiv 60 ∧
    days.elapsed now start = (hours.elapsed now start).tdiv 24 ∧
    (∀ now' start' : Instant, now.since start ≤ now'.since start' →
      ∀ unit : TimeUnit, unit.elapsed now start ≤ unit.elapsed now' start') := by
  refine ⟨?_, ?_, ?_, ?_, ?_⟩
  · intro unit
    exact unit.elapsed_eq_wholeSeconds now start
  · intro unit
    exact unit.elapsed_swap start now
  · exact elapsed_of_multiple now start (by decide)
  · exact elapsed_of_multiple now start (by decide)
  · intro now' start' hsince unit
    exact unit.elapsed_mono hsince

/-- Half a second more than a day ahead is a day ahead, half a second less is none. -/
theorem elapsed_consistent_halfSeconds :
    (⟨0, 250000000⟩ : Instant).since ⟨86400, 750000000⟩
      ≤ (⟨0, 250000000⟩ : Instant).since ⟨86399, 750000000⟩ ∧
    minutes.elapsed ⟨0, 250000000⟩ ⟨86400, 750000000⟩ = -1440 ∧
    hours.elapsed ⟨0, 250000000⟩ ⟨86400, 750000000⟩ = -24 ∧
    days.elapsed ⟨0, 250000000⟩ ⟨86400, 750000000⟩ = -1 ∧
    days.elapsed ⟨86400, 750000000⟩ ⟨0, 250000000⟩ = 1 ∧
    days.elapsed ⟨0, 250000000⟩ ⟨86399, 750000000⟩ = 0 ∧
    ∀ unit : TimeUnit, unit.elapsed ⟨0, 250000000⟩ ⟨86400, 750000000⟩
      ≤ unit.elapsed ⟨0, 250000000⟩ ⟨86399, 750000000⟩ := by
  obtain ⟨hwhole, hback, hhours, hdays, hmono⟩ :=
    elapsed_consistent ⟨0, 250000000⟩ ⟨86400, 750000000⟩
  have hlonger : (⟨0, 250000000⟩ : Instant).since ⟨86400, 750000000⟩
      ≤ (⟨0, 250000000⟩ : Instant).since ⟨86399, 750000000⟩ := by decide
  have hminutes : minutes.elapsed ⟨0, 250000000⟩ ⟨86400, 750000000⟩ = -1440 := by
    rw [hwhole]
    decide
  have hday : days.elapsed ⟨0, 250000000⟩ ⟨86400, 750000000⟩ = -1 := by
    rw [hdays, hhours, hminutes]
    decide
  refine ⟨hlonger, hminutes, ?_, hday, ?_, by decide, hmono _ _ hlonger⟩
  · rw [hhours, hminutes]
    decide
  · have hahead := hback days
    omega

end TimeUnit

end DeliveryGate
