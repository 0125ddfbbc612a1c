import DeliveryGate.Time.Calendar

/-!
# Days and dates

Every day has a date of the calendar (`Date.isValid_ofDays`), and is the day of its date
(`Date.toDays_ofDays`). An era of four hundred years consists of centuries of 36524 days, these of
cycles of 1461 days, and these of years of 365 days. The last year of a cycle may have a day more,
unless the cycle is the last one of a century that is not the last one of its era.
-/

namespace DeliveryGate

namespace Date

/-- The number of a day in an era by its century, the cycle in this, the year in this, and the day
in this. -/
structure EraDay (dayOfEra century cycle year day : Int) : Prop where
  century_mem : 0 ≤ century ∧ century ≤ 3
  cycle_mem : 0 ≤ cycle ∧ cycle ≤ 24
  year_mem : 0 ≤ year ∧ year ≤ 3
  day_mem : 0 ≤ day ∧ (day ≤ 364 ∨ day = 365 ∧ year = 3 ∧ (cycle ≤ 23 ∨ century = 3))
  eq : dayOfEra = 36524 * century + 1461 * cycle + 365 * year + day

/-- Every day of an era has its century, cycle and year. -/
theorem exists_eraDay {n : Int} (h : 0 ≤ n ∧ n < 146097) :
    ∃ century cycle year day, EraDay n century cycle year day := by
  obtain ⟨c, r, hc, hr, hn⟩ : ∃ c r : Int, (0 ≤ c ∧ c ≤ 3) ∧
      (0 ≤ r ∧ (r < 36524 ∨ r = 36524 ∧ c = 3)) ∧ n = 36524 * c + r :=
    ⟨min (n / 36524) 3, n - 36524 * min (n / 36524) 3, by omega, by omega, by omega⟩
  obtain ⟨q, s, hq, hs, hr'⟩ : ∃ q s : Int, (0 ≤ q ∧ q ≤ 24) ∧ (0 ≤ s ∧ s < 1461) ∧
      r = 1461 * q + s := ⟨r / 1461, r % 1461, by omega, by omega, by omega⟩
  obtain ⟨y, d, hy, hd, hs'⟩ : ∃ y d : Int, (0 ≤ y ∧ y ≤ 3) ∧
      (0 ≤ d ∧ (d < 365 ∨ d = 365 ∧ y = 3)) ∧ s = 365 * y + d :=
    ⟨min (s / 365) 3, s - 365 * min (s / 365) 3, by omega, by omega, by omega⟩
  exact ⟨c, q, y, d, hc, hq, hy, by omega, by omega⟩

section

variable {n c q y d : Int} (h : EraDay n c q y d)

include h

/-- The year of a day is found from its number by counting the leap days before it. -/
theorem EraDay.yearOfEra :
    (n - n / 1460 + n / 36524 - n / 146096) / 365 = 100 * c + 4 * q + y := by
  obtain ⟨hc, hq, hy, hd, hn⟩ := h
  have hcenturies : n / 36524 - n / 146096 = c := by
    by_cases hlast : n = 146096
    · omega
    · have hfirst : n / 146096 = 0 := by omega
      omega
  -- the day before the last one of a leap year may be counted as a leap day already
  obtain ⟨t, hcycles, ht⟩ : ∃ t, n / 1460 = 25 * c + q + t ∧ 0 ≤ d - t ∧ d - t < 365 := by
    refine ⟨(24 * c + q + 365 * y + d) / 1460, ?_, ?_, ?_⟩
    · omega
    · omega
    · omega
  omega

/-- What is left of the number of a day without the days of earlier years. -/
theorem EraDay.dayOfYear :
    n - (365 * (100 * c + 4 * q + y) + (100 * c + 4 * q + y) / 4 - (100 * c + 4 * q + y) / 100)
      = d := by
  obtain ⟨hc, hq, hy, hd, hn⟩ := h
  omega

end

/-- The date of a day by the parts of its number, months being counted from March. -/
theorem exists_ofDays (days : Int) : ∃ era c q y d month : Int,
    EraDay (days + 719468 - 146097 * era) c q y d ∧ month = (5 * d + 2) / 153 ∧
      ofDays days = ⟨400 * era + 100 * c + 4 * q + y + (if month < 10 then 0 else 1),
        (if month < 10 then month + 3 else month - 9).toNat,
        (d - (153 * month + 2) / 5 + 1).toNat⟩ := by
  obtain ⟨c, q, y, d, h⟩ := exists_eraDay (n := (days + 719468) % 146097) (by omega)
  refine ⟨(days + 719468) / 146097, c, q, y, d, _, ?_, rfl, ?_⟩
  · have hrest : days + 719468 - 146097 * ((days + 719468) / 146097)
        = (days + 719468) % 146097 := by omega
    rwa [hrest]
  · have hday := h.day_mem
    simp only [ofDays, h.yearOfEra, h.dayOfYear, mk.injEq, and_true]
    split <;> split <;> omega

/-- A day is the day of its date. -/
theorem toDays_ofDays (days : Int) : (ofDays days).toDays = days := by
  obtain ⟨era, c, q, y, d, month, h, hmonth, hdate⟩ := exists_ofDays days
  obtain ⟨hc, hq, hy, hd, hn⟩ := h
  simp only [hdate, toDays]
  by_cases hlate : month < 10
  · simp only [if_pos hlate]
    rw [if_neg (by omega)]
    have hmarch : (((month + 3).toNat + 9 : Nat) : Int) % 12 = month := by omega
    rw [hmarch]
    omega
  · simp only [if_neg hlate]
    rw [if_pos (by omega)]
    have hmarch : (((month - 9).toNat + 9 : Nat) : Int) % 12 = month := by omega
    rw [hmarch]
    omega

/-- Every day has a date of the calendar. -/
theorem isValid_ofDays (days : Int) : (ofDays days).isValid = true := by
  obtain ⟨era, c, q, y, d, month, h, hmonth, hdate⟩ := exists_ofDays days
  obtain ⟨hc, hq, hy, hd, hn⟩ := h
  have hleap : d = 365 → isLeapYear (400 * era + 100 * c + 4 * q + y + 1) = true := by
    intro hlast
    simp only [isLeapYear, Bool.and_eq_true, Bool.or_eq_true, beq_iff_eq, bne_iff_ne]
    omega
  have hmonths : (0 ≤ month ∧ month ≤ 10) ∨ month = 11 := by omega
  simp only [hdate, isValid, daysInMonth, Bool.and_eq_true, decide_eq_true_eq]
  clear hdate hn
  rcases hmonths with hmonths | rfl
  · have hothers : month = 0 ∨ month = 1 ∨ month = 2 ∨ month = 3 ∨ month = 4 ∨ month = 5 ∨
        month = 6 ∨ month = 7 ∨ month = 8 ∨ month = 9 ∨ month = 10 := by omega
    rcases hothers with rfl | rfl | rfl | rfl | rfl | rfl | rfl | rfl | rfl | rfl | rfl <;>
      simp <;> omega
  · by_cases hyear : isLeapYear (400 * era + 100 * c + 4 * q + y + 1) = true
    · simp [hyear]
      omega
    · have hless : d ≠ 365 := fun hlast => hyear (hleap hlast)
      simp [hyear]
      omega

theorem lt_of_isValid {date : Date} (h : date.isValid = true) :
    date.month < 100 ∧ date.day < 100 := by
  have hdays : daysInMonth date.year date.month ≤ 31 := by
    rw [daysInMonth]
    split
    · split <;> decide
    · split <;> decide
  simp only [isValid, Bool.and_eq_true, decide_eq_true_eq] at h
  omega

end Date

end DeliveryGate
