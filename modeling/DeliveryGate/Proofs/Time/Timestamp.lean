import DeliveryGate.Proofs.Number.Digits
import DeliveryGate.Proofs.Time.Calendar
import DeliveryGate.Time.Timestamp

/-!
# Instants and timestamps

An instant that was read from some timestamp has a year that dates may have, and lies in a leap
second only at the end of a minute (`Instant.datable_of_parse?`). From such an instant a timestamp
is written that is read as this very instant (`Instant.parse?_render`): the form that is written is
one of those that are read.
-/

namespace DeliveryGate

namespace Instant

open Number (Spells)

theorem padded_spells (width n : Nat) : Spells (padded width n) n where
  ne_nil h := Nat.toDigits_ne_nil (List.append_eq_nil_iff.mp h).2
  isDigit c hc := by
    rcases List.mem_append.mp hc with hc | hc
    · rw [List.eq_of_mem_replicate hc]
      rfl
    · exact (Number.spells_decimalDigits n).isDigit c hc
  value := by
    rw [padded, Number.ofDigits_zeros]
    exact (Number.spells_decimalDigits n).value

theorem length_padded {width n : Nat} (hwidth : 0 < width) (hn : n < 10 ^ width) :
    (padded width n).length = width := by
  have hle := (Nat.length_toDigits_le_iff (b := 10) (by decide) hwidth).mpr hn
  rw [padded, List.length_append, List.length_replicate]
  omega

section

variable {digits rest : List Char} {n width : Nat}

/-- A number is read from the front of a text where its digits stop, or where no more of them are
read. -/
theorem number?_append (h : Spells digits n) (hwidth : digits.length ≤ width)
    (hrest : digits.length = width ∨ ∀ c ∈ rest.head?, Number.isDigit c = false) :
    number? width (digits ++ rest) = some (n, rest) := by
  have hdigits : ((digits ++ rest).take width).takeWhile Number.isDigit = digits := by
    rw [List.take_append, List.take_of_length_le hwidth, List.takeWhile_append_of_pos h.isDigit]
    rcases hrest with hfull | hstop
    · simp [hfull]
    · cases hleft : rest.take (width - digits.length) with
      | nil => simp
      | cons c cs =>
        have hhead : c ∈ rest.head? := by
          cases rest with
          | nil => simp at hleft
          | cons d rest =>
            cases hless : width - digits.length with
            | zero => simp [hless] at hleft
            | succ k =>
              rw [hless, List.take_succ_cons] at hleft
              exact congrArg some (List.cons.inj hleft).1
        rw [List.takeWhile_cons_of_neg (by simp [hstop c hhead]), List.append_nil]
  simp only [number?, hdigits, h.value, List.drop_left]
  simp [h.ne_nil]

theorem part?_append {mark : Char} (hmark : Text.isBlank mark = false) (h : Spells digits n)
    (hlength : digits.length = 2) : part? mark (mark :: (digits ++ rest)) = some (n, rest) := by
  have hskip : mark? mark (mark :: (digits ++ rest)) = some (digits ++ rest) := by
    rw [mark?, Text.trimStart, List.dropWhile_cons_of_neg (by simp [hmark])]
    simp
  rw [part?, hskip]
  simp only [Option.bind_eq_bind, Option.bind_some, h.trimStart]
  exact number?_append h hlength.le (Or.inl hlength)

end

/-! ### Parts of a timestamp -/

/-- A year is read back, up to the hyphen behind it. -/
theorem year?_renderYear (year : Int) (rest : List Char) :
    year? (renderYear year ++ '-' :: rest) = some (year, '-' :: rest) := by
  have hdigits := padded_spells 4 year.natAbs
  have hstop : ∀ c ∈ ('-' :: rest).head?, Number.isDigit c = false := by
    rintro _ ⟨⟩
    rfl
  have hlength : (padded 4 year.natAbs).length ≤ (padded 4 year.natAbs ++ '-' :: rest).length := by
    rw [List.length_append]
    exact Nat.le_add_right ..
  have hsigned := number?_append hdigits hlength (Or.inr hstop)
  rw [renderYear]
  split
  · rename_i hyear
    simp only [Bool.and_eq_true, decide_eq_true_eq] at hyear
    have hfour : (padded 4 year.natAbs).length = 4 := length_padded (by decide) (by omega)
    have hnatural : (year.natAbs : Int) = year := by omega
    rw [year?, number?_append hdigits hfour.le (Or.inl hfour)]
    · simp only [Option.map_some, hnatural]
    · exact fun _ h => hdigits.ne_cons rfl _ _ h
    · exact fun _ h => hdigits.ne_cons rfl _ _ h
  · split
    · have hyear : -(year.natAbs : Int) = year := by omega
      rw [List.cons_append, year?, hsigned]
      simp only [Option.map_some, hyear]
    · have hyear : (year.natAbs : Int) = year := by omega
      rw [List.cons_append, year?, hsigned]
      simp only [Option.map_some, hyear]

theorem fraction?_padded {width n : Nat} (hwidth : 0 < width ∧ width ≤ 9) (hn : n < 10 ^ width) :
    fraction? ('.' :: (padded width n ++ ['Z'])) = some (n * 10 ^ (9 - width), ['Z']) := by
  have hdigits := padded_spells width n
  have hlength := length_padded hwidth.1 hn
  have hall : (padded width n ++ ['Z']).takeWhile Number.isDigit = padded width n := by
    rw [List.takeWhile_append_of_pos hdigits.isDigit]
    exact List.append_nil _
  have hkept : (padded width n).take 9 = padded width n :=
    List.take_of_length_le (by rw [hlength]; exact hwidth.2)
  simp only [fraction?, hall, hkept, hdigits.value, hlength, List.drop_left' hlength]
  simp [hdigits.ne_nil]

/-- The decimals of a second are read back as its nanoseconds. -/
theorem fraction?_renderFraction {nanos : Nat} (h : nanos < second) :
    fraction? (renderFraction nanos ++ ['Z']) = some (nanos, ['Z']) := by
  rw [second] at h
  simp only [renderFraction, beq_iff_eq]
  split
  · rename_i hzero
    rw [hzero]
    rfl
  split
  · rename_i hmillis
    rw [List.cons_append, fraction?_padded (by decide) (by omega)]
    congr 2
    omega
  split
  · rename_i hmicros
    rw [List.cons_append, fraction?_padded (by decide) (by omega)]
    congr 2
    omega
  · rw [List.cons_append, fraction?_padded (by decide) (by omega)]
    congr 2
    omega

/-! ### Timestamps -/

/-- The timestamp with these parts in universal time. -/
def renderParts (date : Date) (hour minute sec nanos : Nat) : List Char :=
  renderYear date.year ++ '-' :: (padded 2 date.month ++ '-' :: (padded 2 date.day
    ++ 'T' :: (padded 2 hour ++ ':' :: (padded 2 minute ++ ':' :: (padded 2 sec
    ++ (renderFraction nanos ++ ['Z']))))))

theorem trimStart_renderYear (year : Int) (rest : List Char) :
    Text.trimStart (renderYear year ++ rest) = renderYear year ++ rest := by
  rw [renderYear]
  split
  · exact (padded_spells 4 year.natAbs).trimStart rest
  · rw [List.cons_append, Text.trimStart, List.dropWhile_cons_of_neg]
    split <;> decide

/-- The parts of a timestamp are read back. -/
theorem parse?_renderParts {date : Date} {hour minute sec nanos : Nat} (hmonth : date.month < 100)
    (hday : date.day < 100) (hhour : hour < 100) (hminute : minute < 100) (hsec : sec < 100)
    (hnanos : nanos < second) :
    parse? (String.ofList (renderParts date hour minute sec nanos))
      = ofParts? date hour minute sec nanos 0 := by
  have htwo {n : Nat} (hn : n < 100) : (padded 2 n).length = 2 := length_padded (by decide) hn
  have hdashed {n : Nat} {rest : List Char} (hn : n < 100) :
      part? '-' ('-' :: (padded 2 n ++ rest)) = some (n, rest) :=
    part?_append rfl (padded_spells 2 n) (htwo hn)
  have hcolon {n : Nat} {rest : List Char} (hn : n < 100) :
      part? ':' (':' :: (padded 2 n ++ rest)) = some (n, rest) :=
    part?_append rfl (padded_spells 2 n) (htwo hn)
  have hspells := padded_spells 2 hour
  have hhours {rest : List Char} : number? 2 (padded 2 hour ++ rest) = some (hour, rest) :=
    number?_append hspells (htwo hhour).le (Or.inl (htwo hhour))
  rw [parse?, String.toList_ofList, renderParts, trimStart_renderYear, year?_renderYear]
  simp only [Option.bind_eq_bind, Option.bind_some, hdashed hmonth, hdashed hday,
    hspells.trimStart, hhours, hcolon hminute, hcolon hsec, fraction?_renderFraction hnanos]
  rfl

section

variable {seconds : Int} {sec nanos : Nat}

/-- The timestamp of this second of universal time, where `sec` may also be a leap second. -/
def renderSecond (seconds : Int) (sec nanos : Nat) : List Char :=
  renderParts (Date.ofDays (seconds / secondsPerDay)) ((seconds % secondsPerDay).toNat / 3600)
    ((seconds % secondsPerDay).toNat / 60 % 60) sec nanos

/-- The parts of a second in universal time make this second. -/
theorem ofParts?_universal
    (hyear : isYear (Date.ofDays (seconds / secondsPerDay)).year = true)
    (hsec : sec ≤ 60 ∧ ((min sec 59 : Nat) : Int) = seconds % 60) :
    ofParts? (Date.ofDays (seconds / secondsPerDay))
        ((seconds % secondsPerDay).toNat / 3600) ((seconds % secondsPerDay).toNat / 60 % 60) sec
        nanos 0 = some ⟨seconds, if sec == 60 then nanos + second else nanos⟩ := by
  have htime : 3600 * (((seconds % secondsPerDay).toNat / 3600 : Nat) : Int)
      + 60 * (((seconds % secondsPerDay).toNat / 60 % 60 : Nat) : Int) + min sec 59
        = seconds % secondsPerDay := by
    rw [secondsPerDay]
    omega
  have hwhole : seconds / secondsPerDay * secondsPerDay + seconds % secondsPerDay - 0
      = seconds := by
    rw [secondsPerDay]
    omega
  have hhour : (seconds % secondsPerDay).toNat / 3600 < 24 := by
    rw [secondsPerDay]
    omega
  have hminute : (seconds % secondsPerDay).toNat / 60 % 60 < 60 := Nat.mod_lt _ (by decide)
  rw [ofParts?, Date.toDays_ofDays]
  simp only [htime, hwhole, hyear, Date.isValid_ofDays, hhour, hminute, hsec.1]
  rfl

theorem parse?_renderSecond
    (hyear : isYear (Date.ofDays (seconds / secondsPerDay)).year = true)
    (hsec : sec ≤ 60 ∧ ((min sec 59 : Nat) : Int) = seconds % 60) (hnanos : nanos < second) :
    parse? (String.ofList (renderSecond seconds sec nanos))
      = some ⟨seconds, if sec == 60 then nanos + second else nanos⟩ := by
  obtain ⟨hmonth, hday⟩ := Date.lt_of_isValid (Date.isValid_ofDays (seconds / secondsPerDay))
  have htime : (seconds % secondsPerDay).toNat < 86400 := by
    rw [secondsPerDay]
    omega
  rw [renderSecond, parse?_renderParts hmonth hday (by omega) (by omega) (by omega) hnanos]
  exact ofParts?_universal hyear hsec

end

/-- A timestamp can tell this instant. -/
structure Datable (t : Instant) : Prop where
  year : isYear (Date.ofDays (t.seconds / secondsPerDay)).year = true
  nanos : t.nanos < 2 * second
  leap : t.isLeap = true → t.seconds % 60 = 59

/-- An instant is read back from its timestamp. -/
theorem parse?_render {t : Instant} (h : t.Datable) :
    parse? (String.ofList t.render) = some t := by
  obtain ⟨seconds, nanos⟩ := t
  obtain ⟨hyear, hnanos, hleap⟩ := h
  dsimp only at hyear hnanos hleap
  have htime : (seconds % secondsPerDay).toNat % 60 = (seconds % 60).toNat := by
    rw [secondsPerDay]
    omega
  by_cases hsecond : second ≤ nanos
  · have hlast := hleap (decide_eq_true hsecond)
    have hrender : render ⟨seconds, nanos⟩ = renderSecond seconds 60 (nanos - second) := by
      simp [render, renderSecond, renderParts, isLeap, timeOfDay, hsecond, htime, hlast]
    rw [hrender, parse?_renderSecond hyear (by omega) (by omega)]
    simp
    omega
  · have hrender : render ⟨seconds, nanos⟩
        = renderSecond seconds (seconds % 60).toNat nanos := by
      simp [render, renderSecond, renderParts, isLeap, timeOfDay, hsecond, htime]
    rw [hrender, parse?_renderSecond hyear (by omega) (by omega)]
    simp
    omega

/-! ### What timestamps tell -/

theorem fraction?_lt {cs rest : List Char} {nanos : Nat}
    (h : fraction? cs = some (nanos, rest)) : nanos < second := by
  rw [fraction?.eq_def] at h
  split at h
  · rename_i more
    obtain ⟨kept, hkept⟩ : ∃ kept, (more.takeWhile Number.isDigit).take 9 = kept := ⟨_, rfl⟩
    have hlength : kept.length ≤ 9 := hkept ▸ List.length_take_le ..
    have hbound := Number.ofDigits_lt kept
    simp only [hkept] at h
    split at h
    · cases h
    · obtain ⟨rfl, -⟩ := Prod.mk.inj (Option.some.inj h)
      calc Number.ofDigits kept * 10 ^ (9 - kept.length)
        _ < 10 ^ kept.length * 10 ^ (9 - kept.length) :=
          Nat.mul_lt_mul_of_pos_right hbound (Nat.pow_pos (by decide))
        _ = second := by
          rw [← Nat.pow_add, Nat.add_sub_cancel' hlength]
          rfl
  · cases h
    decide

theorem offsetBody?_mod {cs rest : List Char} {offset : Nat}
    (h : offsetBody? cs = some (offset, rest)) : offset % 60 = 0 := by
  rw [offsetBody?] at h
  simp only [Option.bind_eq_bind, Option.bind_eq_some_iff] at h
  obtain ⟨⟨hours, _⟩, -, ⟨minutes, _⟩, -, h⟩ := h
  split at h
  · obtain ⟨rfl, -⟩ := Prod.mk.inj (Option.some.inj h)
    omega
  · cases h

/-- An offset consists of whole minutes. -/
theorem offset?_mod {cs rest : List Char} {offset : Int}
    (h : offset? cs = some (offset, rest)) : offset % 60 = 0 := by
  rw [offset?.eq_def] at h
  split at h
  · cases h
    rfl
  split at h
  · cases h
    rfl
  · cases h
    rfl
  all_goals first
    | cases h
    | obtain ⟨⟨n, _⟩, hbody, heq⟩ := Option.map_eq_some_iff.mp h
      obtain ⟨rfl, -⟩ := Prod.mk.inj heq
      have hn := offsetBody?_mod hbody
      omega

theorem datable_of_ofParts? {date : Date} {hour minute sec nanos : Nat} {offset : Int}
    {t : Instant} (hnanos : nanos < second) (hoffset : offset % 60 = 0)
    (h : ofParts? date hour minute sec nanos offset = some t) : t.Datable := by
  simp only [ofParts?, Option.ite_none_right_eq_some, Option.some.injEq] at h
  obtain ⟨-, hyear, rfl⟩ := h
  refine ⟨hyear, ?_, fun hleap => ?_⟩
  · dsimp only
    split <;> omega
  · have hsec : sec = 60 := by
      by_contra hne
      simp [isLeap, hne] at hleap
      omega
    dsimp only
    rw [secondsPerDay, hsec]
    omega

/-- Every instant that is read can be told by a timestamp. -/
theorem datable_of_parse? {text : String} {t : Instant} (h : parse? text = some t) :
    t.Datable := by
  rw [parse?] at h
  simp only [Option.bind_eq_bind, Option.bind_eq_some_iff] at h
  obtain ⟨_, -, _, -, _, -, h⟩ := h
  split at h
  case h_4 => cases h
  all_goals
    simp only [Option.bind_some, Option.bind_eq_some_iff, Option.ite_none_right_eq_some] at h
    obtain ⟨_, -, _, -, _, -, ⟨nanos, _⟩, hnanos, ⟨offset, _⟩, hoffset, -, h⟩ := h
    exact datable_of_ofParts? (fraction?_lt hnanos) (offset?_mod hoffset) h

end Instant

end DeliveryGate
