import Mathlib.Algebra.GroupWithZero.Nat
import Mathlib.Data.Int.Init
import StubForge.Calendar

set_option autoImplicit false

/-!
Dates, one day after the other. The calendar goes from each date to the next by the lengths of the months, forwards and
backwards from 1 January 1970. The date that is computed for a day is the one that the calendar comes to.
-/

namespace StubForge.Date

def monthLength (d : Date) : Nat := (monthLengths (isLeap d.year)).getD (d.month - 1) 0

structure Valid (d : Date) : Prop where
  first : 1 ≤ d.month
  last : d.month ≤ 12
  begun : 1 ≤ d.day
  within : d.day ≤ d.monthLength

-- The day after a date: in the same month, or the first of the next month, or of the next year.
def next (d : Date) : Date :=
  if d.day < d.monthLength then { d with day := d.day + 1 }
  else if d.month < 12 then { d with month := d.month + 1, day := 1 }
  else { year := d.year + 1, month := 1, day := 1 }

-- The date of a day, counted from 1 January 1970.
inductive Falls : Int → Date → Prop
  | epoch : Falls 0 { year := 1970, month := 1, day := 1 }
  | later (day : Int) (d : Date) (before : Falls day d) : Falls (day + 1) d.next
  | earlier (day : Int) (d : Date) (valid : d.Valid) (after : Falls (day + 1) d.next) : Falls day d

/-! ### Years -/

theorem is_leap_iff (year : Int) : isLeap year = true ↔ year % 4 = 0 ∧ (year % 100 ≠ 0 ∨ year % 400 = 0) := by
  simp [isLeap]

def yearLength (year : Int) : Nat := (monthLengths (isLeap year)).sum

theorem year_length_eq (year : Int) : yearLength year = if isLeap year then 366 else 365 := by
  unfold yearLength
  cases isLeap year <;> rfl

theorem year_start_next (year : Int) : yearStart (year + 1) = yearStart year + yearLength year := by
  simp only [yearStart, year_length_eq, is_leap_iff]
  split <;> omega

theorem year_start_mono (first second : Int) (before : first < second) :
    yearStart (first + 1) ≤ yearStart second := by
  simp only [yearStart]
  omega

/-! ### Months -/

-- The days of a year before a month.
def daysBefore (d : Date) : Nat := ((monthLengths (isLeap d.year)).take (d.month - 1)).sum

theorem days_eq (d : Date) (begun : 1 ≤ d.day) :
    d.days = yearStart d.year + (d.daysBefore + (d.day - 1) : Nat) := by
  rw [days, daysBefore, List.sum_eq_foldl]
  omega

theorem length_month_lengths (leap : Bool) : (monthLengths leap).length = 12 := rfl

theorem days_through (d : Date) (valid : d.Valid) :
    ((monthLengths (isLeap d.year)).take d.month).sum = d.daysBefore + d.monthLength := by
  obtain ⟨before, whole⟩ : ∃ before, d.month = before + 1 := ⟨d.month - 1, (Nat.sub_add_cancel valid.first).symm⟩
  have inside : before < (monthLengths (isLeap d.year)).length := by
    rw [length_month_lengths, ← Nat.add_one_le_iff, ← whole]
    exact valid.last
  rw [daysBefore, monthLength, whole, Nat.add_sub_cancel, List.getD_eq_getElem?_getD, List.getElem?_eq_getElem inside,
    Option.getD_some, List.take_succ_eq_append_getElem inside, List.sum_append, List.sum_singleton]

theorem days_of_months_mono (lengths : List Nat) (first second : Nat) (before : first ≤ second) :
    (lengths.take first).sum ≤ (lengths.take second).sum := by
  have split := congrArg List.sum (List.take_append_drop first (lengths.take second))
  rw [List.sum_append, List.take_take, Nat.min_eq_left before] at split
  omega

theorem days_within_year (d : Date) (valid : d.Valid) :
    yearStart d.year ≤ d.days ∧ d.days < yearStart (d.year + 1) := by
  have through := days_of_months_mono (monthLengths (isLeap d.year)) d.month 12 valid.last
  rw [days_through d valid, ← length_month_lengths (isLeap d.year), List.take_length] at through
  have begun := valid.begun
  have within := valid.within
  rw [days_eq d begun, year_start_next, yearLength]
  omega

-- A date is known by the number of its day.
theorem eq_of_days (a b : Date) (aValid : a.Valid) (bValid : b.Valid) (same : a.days = b.days) : a = b := by
  obtain ⟨aStart, aEnd⟩ := days_within_year a aValid
  obtain ⟨bStart, bEnd⟩ := days_within_year b bValid
  have years : a.year = b.year := by
    rcases Int.lt_trichotomy a.year b.year with less | equal | more
    · have after := year_start_mono a.year b.year less
      omega
    · exact equal
    · have after := year_start_mono b.year a.year more
      omega
  obtain ⟨aFirst, aLast, aBegun, aWithin⟩ := aValid
  obtain ⟨bFirst, bLast, bBegun, bWithin⟩ := bValid
  rw [days_eq a aBegun, days_eq b bBegun, years] at same
  have aThrough := days_through a ⟨aFirst, aLast, aBegun, aWithin⟩
  have bThrough := days_through b ⟨bFirst, bLast, bBegun, bWithin⟩
  have months : a.month = b.month := by
    rw [years] at aThrough
    rcases Nat.lt_trichotomy a.month b.month with less | equal | more
    · have after := days_of_months_mono (monthLengths (isLeap b.year)) a.month (b.month - 1) (by omega)
      rw [aThrough] at after
      change _ ≤ b.daysBefore at after
      omega
    · exact equal
    · have after := days_of_months_mono (monthLengths (isLeap b.year)) b.month (a.month - 1) (by omega)
      rw [bThrough, ← years] at after
      change _ ≤ a.daysBefore at after
      omega
  have before : a.daysBefore = b.daysBefore := by rw [daysBefore, daysBefore, years, months]
  have ofMonth : a.day = b.day := by omega
  cases a
  cases b
  simp_all

/-! ### The next day -/

theorem valid_next (d : Date) (valid : d.Valid) : d.next.Valid := by
  obtain ⟨first, last, begun, within⟩ := valid
  have filled (leap : Bool) (index : Nat) (inside : index < 12) : 1 ≤ (monthLengths leap).getD index 0 := by
    revert index
    cases leap <;> decide
  by_cases sameMonth : d.day < d.monthLength
  · rw [next, if_pos sameMonth]
    exact ⟨first, last, by dsimp only; omega, sameMonth⟩
  · rw [next, if_neg sameMonth]
    by_cases sameYear : d.month < 12
    · rw [if_pos sameYear]
      exact ⟨by dsimp only; omega, sameYear, Nat.le_refl 1, filled _ _ (by dsimp only; omega)⟩
    · rw [if_neg sameYear]
      exact ⟨Nat.le_refl 1, Nat.le_of_ble_eq_true rfl, Nat.le_refl 1, filled _ 0 (by decide)⟩

theorem days_next (d : Date) (valid : d.Valid) : d.next.days = d.days + 1 := by
  have through := days_through d valid
  obtain ⟨first, last, begun, within⟩ := valid
  rw [days_eq d begun, days_eq d.next (valid_next d ⟨first, last, begun, within⟩).begun]
  by_cases sameMonth : d.day < d.monthLength
  · have before : d.next.daysBefore = d.daysBefore := by rw [next, if_pos sameMonth, daysBefore, daysBefore]
    rw [before]
    simp only [next, if_pos sameMonth]
    omega
  · by_cases sameYear : d.month < 12
    · have before : d.next.daysBefore = d.daysBefore + d.monthLength := by
        rw [← through, next, if_neg sameMonth, if_pos sameYear, daysBefore]
        rfl
      rw [before]
      simp only [next, if_neg sameMonth, if_pos sameYear]
      omega
    · have before : d.next.daysBefore = 0 := by
        rw [next, if_neg sameMonth, if_neg sameYear, daysBefore]
        rfl
      have whole : yearLength d.year = d.daysBefore + d.monthLength := by
        rw [← through, show d.month = 12 by omega, yearLength, ← length_month_lengths (isLeap d.year), List.take_length]
      rw [before]
      simp only [next, if_neg sameMonth, if_neg sameYear]
      rw [year_start_next, whole]
      omega

/-! ### The date of a day -/

-- A day of the year lies in one month.
theorem month_and_day_place (lengths : List Nat) (month day : Nat) (inside : day < lengths.sum) :
    ∃ index rest, index < lengths.length ∧ rest < lengths.getD index 0 ∧
      day = (lengths.take index).sum + rest ∧ monthAndDay lengths month day = (month + index, rest + 1) := by
  induction lengths generalizing month day with
  | nil => simp at inside
  | cons length lengths ih =>
      rw [List.sum_cons] at inside
      by_cases here : day < length
      · exact ⟨0, day, by simp, by simpa using here, by simp, by simp [monthAndDay, here]⟩
      · obtain ⟨index, rest, bound, within, place, found⟩ := ih (month + 1) (day - length) (by omega)
        refine ⟨index + 1, rest, by simpa using bound, by simpa using within, ?_, ?_⟩
        · rw [List.take_succ_cons, List.sum_cons]
          omega
        · rw [monthAndDay, if_neg here, found]
          congr 1
          omega

-- Years come in cycles of 400, centuries and terms of four years.
theorem year_start_of_terms (cycle century term extra : Int) (centuries : 0 ≤ century ∧ century ≤ 3)
    (terms : 0 ≤ term ∧ term ≤ 24) (extras : 0 ≤ extra ∧ extra ≤ 3) :
    yearStart (cycle * 400 + century * 100 + term * 4 + extra + 1) =
      cycle * 146097 + century * 36524 + term * 1461 + extra * 365 := by
  have fours : (cycle * 400 + century * 100 + term * 4 + extra) / 4 = cycle * 100 + century * 25 + term := by omega
  have hundreds : (cycle * 400 + century * 100 + term * 4 + extra) / 100 = cycle * 4 + century := by omega
  have cycles : (cycle * 400 + century * 100 + term * 4 + extra) / 400 = cycle := by omega
  simp only [yearStart, Int.add_sub_cancel, fours, hundreds, cycles]
  omega

-- Only a year at the end of a term has a day 366, and at the end of a century only that of a cycle.
theorem year_length_of_terms (cycle century term extra rest : Int) (terms : 0 ≤ term ∧ term ≤ 24)
    (extras : 0 ≤ extra ∧ extra ≤ 3) (short : rest ≤ 365) (inTerm : rest = 365 → extra = 3)
    (inCentury : term * 1461 + extra * 365 + rest = 36524 → century = 3) :
    rest < yearLength (cycle * 400 + century * 100 + term * 4 + extra + 1) := by
  simp only [year_length_eq, is_leap_iff]
  split <;> omega

-- A day lies in one year.
theorem of_days_year (n : Int) : ∃ year : Int, ∃ day : Nat, yearStart year + day = n ∧ day < yearLength year ∧
    ofDays n = ⟨year, (monthAndDay (monthLengths (isLeap year)) 1 day).1,
      (monthAndDay (monthLengths (isLeap year)) 1 day).2⟩ := by
  obtain ⟨cycle, century, term, extra, rest, centuries, terms, extras, short, inTerm, inCentury, whole, found⟩ :
      ∃ cycle century term extra rest : Int, (0 ≤ century ∧ century ≤ 3) ∧ (0 ≤ term ∧ term ≤ 24) ∧
        (0 ≤ extra ∧ extra ≤ 3) ∧ (0 ≤ rest ∧ rest ≤ 365) ∧ (rest = 365 → extra = 3) ∧
        (term * 1461 + extra * 365 + rest = 36524 → century = 3) ∧
        n = cycle * 146097 + century * 36524 + term * 1461 + extra * 365 + rest ∧
        ofDays n =
          let year := cycle * 400 + century * 100 + term * 4 + extra + 1
          ⟨year, (monthAndDay (monthLengths (isLeap year)) 1 rest.toNat).1,
            (monthAndDay (monthLengths (isLeap year)) 1 rest.toNat).2⟩ := by
    refine ⟨_, _, _, _, _, ?_, ?_, ?_, ?_, ?_, ?_, ?_, rfl⟩ <;> omega
  have days : (rest.toNat : Int) = rest := Int.toNat_of_nonneg short.1
  refine ⟨_, rest.toNat, ?_, ?_, found⟩
  · rw [year_start_of_terms cycle century term extra centuries terms extras, days, whole]
  · have within := year_length_of_terms cycle century term extra rest terms extras short.2 inTerm inCentury
    omega

theorem valid_of_days (n : Int) : (ofDays n).Valid ∧ (ofDays n).days = n := by
  obtain ⟨year, day, start, within, found⟩ := of_days_year n
  obtain ⟨index, rest, bound, inside, place, month⟩ := month_and_day_place (monthLengths (isLeap year)) 1 day within
  rw [month] at found
  rw [length_month_lengths] at bound
  have valid : (ofDays n).Valid := by
    rw [found]
    refine ⟨?_, ?_, Nat.le_add_left 1 rest, ?_⟩
    · dsimp only
      omega
    · dsimp only
      omega
    · rw [monthLength]
      dsimp only
      rw [Nat.add_sub_cancel_left]
      omega
  refine ⟨valid, ?_⟩
  rw [days_eq _ valid.begun, found, daysBefore]
  dsimp only
  rw [Nat.add_sub_cancel_left, Nat.add_sub_cancel, ← place]
  exact start

theorem of_days_next (n : Int) : (ofDays n).next = ofDays (n + 1) := by
  obtain ⟨valid, number⟩ := valid_of_days n
  obtain ⟨nextValid, nextNumber⟩ := valid_of_days (n + 1)
  apply eq_of_days _ _ (valid_next _ valid) nextValid
  rw [days_next _ valid, number, nextNumber]

-- 1 January 1970 is this many days after the first day of year 1.
theorem of_epoch_day : ofDays Moment.epochDay = { year := 1970, month := 1, day := 1 } := by decide

-- By induction on how the calendar comes to the date.
theorem days_of_falls (day : Int) (d : Date) (falls : Falls day d) : d.Valid ∧ d.days = day + Moment.epochDay := by
  induction falls with
  | epoch => exact ⟨⟨by decide, by decide, by decide, by decide⟩, by decide⟩
  | later day d before ih =>
      obtain ⟨valid, number⟩ := ih
      refine ⟨valid_next d valid, ?_⟩
      rw [days_next d valid, number]
      omega
  | earlier day d valid after ih =>
      refine ⟨valid, ?_⟩
      have number := ih.2
      rw [days_next d valid] at number
      omega

-- By induction on the days, from the epoch on and back from it.
theorem falls_of_days (day : Int) : Falls day (ofDays (day + Moment.epochDay)) := by
  induction day using Int.induction_on with
  | zero =>
      rw [Int.zero_add, of_epoch_day]
      exact .epoch
  | succ day ih =>
      have step := of_days_next (day + Moment.epochDay)
      rw [Int.add_right_comm] at step
      exact step ▸ .later _ _ ih
  | pred day ih =>
      apply Falls.earlier _ _ (valid_of_days _).1
      rw [of_days_next, Int.sub_add_cancel]
      rwa [Int.add_right_comm, Int.sub_add_cancel]

-- The calendar gives every day one date, the computed one.
theorem falls_iff (day : Int) (d : Date) : Falls day d ↔ d = ofDays (day + Moment.epochDay) := by
  constructor
  · intro falls
    obtain ⟨valid, number⟩ := days_of_falls day d falls
    obtain ⟨own, same⟩ := valid_of_days (day + Moment.epochDay)
    exact eq_of_days d _ valid own (number.trans same.symm)
  · rintro rfl
    exact falls_of_days day

end StubForge.Date
