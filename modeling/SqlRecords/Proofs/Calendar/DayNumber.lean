/-
This file counts days. Dates are numbered one after the other without a gap: different dates have
different numbers, the date after a date has the number that follows, and every number from that of
the first date to that of the last one is the number of a date. Moving a date by some days
therefore adds as many to its number, and fails exactly where the number would leave the calendar.

The date after a date is found by three questions, whether the day is the last one of its month and
whether the month is the last one of its year. The numbers are compared through those of the ends
of the month and the year, so that the leap days are counted in one place, for a whole year.
-/

import Mathlib.Data.Int.Init
import Mathlib.Logic.Function.Basic
import Mathlib.Order.Monotone.Basic
import SqlRecords.Proofs.Calendar.Spelling

namespace SqlRecords

/-! ### Years and months -/

/-- The number of the last day before a year. -/
def daysBeforeYear (year : Int) : Int :=
  let years := year - 1
  years * 365 + years / 4 - years / 100 + years / 400

theorem daysBeforeMonth_one (year : Int) : daysBeforeMonth year 1 = 0 :=
  rfl

theorem daysBeforeMonth_succ (year : Int) {month : Nat} (positive : 1 ≤ month) :
    daysBeforeMonth year (month + 1) = daysBeforeMonth year month + monthLength year month := by
  obtain ⟨before, rfl⟩ := Nat.exists_eq_add_of_le' positive
  rfl

theorem daysBeforeMonth_le (year : Int) {earlier later : Nat} (le : earlier ≤ later) :
    daysBeforeMonth year earlier ≤ daysBeforeMonth year later := by
  refine monotone_nat_of_le_succ (fun month => ?_) le
  cases month with
  | zero => exact Nat.le_refl _
  | succ month => exact Nat.le_add_right _ _

theorem monthLength_pos (year : Int) (month : Nat) : 1 ≤ monthLength year month := by
  unfold monthLength
  split
  · split <;> decide
  · split <;> decide

/-- A year has as many days as its twelve months. -/
theorem daysBeforeYear_succ (year : Int) :
    daysBeforeYear (year + 1) = daysBeforeYear year + daysBeforeMonth year 13 := by
  have months : daysBeforeMonth year 13 = 337 + if isLeapYear year then 29 else 28 := by
    simp only [daysBeforeMonth, monthLength]
    cases isLeapYear year <;> rfl
  rw [months]
  unfold daysBeforeYear isLeapYear
  simp only [Bool.and_eq_true, Bool.or_eq_true, beq_iff_eq, bne_iff_ne]
  split <;> omega

theorem daysBeforeYear_le {earlier later : Int} (le : earlier ≤ later) :
    daysBeforeYear earlier ≤ daysBeforeYear later := by
  unfold daysBeforeYear
  dsimp only
  omega


namespace Date

variable {date other : Date}

/-! ### Numbers tell dates apart -/

theorem dayNumber_eq (date : Date) :
    date.dayNumber =
      daysBeforeYear date.year + daysBeforeMonth date.year date.month + date.day :=
  rfl

/-- A date comes after all days of earlier months. -/
theorem monthStart_lt_dayNumber (date : Date) :
    daysBeforeYear date.year + daysBeforeMonth date.year date.month < date.dayNumber := by
  have positive := date.day_pos
  rw [dayNumber_eq]
  omega

/-- A date comes no later than the last day of its month. -/
theorem dayNumber_le_monthEnd (date : Date) :
    date.dayNumber ≤ daysBeforeYear date.year + daysBeforeMonth date.year (date.month + 1) := by
  have fits := date.day_le
  rw [dayNumber_eq, daysBeforeMonth_succ _ date.month_pos]
  omega

theorem yearStart_lt_dayNumber (date : Date) : daysBeforeYear date.year < date.dayNumber := by
  have months := date.monthStart_lt_dayNumber
  omega

theorem dayNumber_le_yearEnd (date : Date) : date.dayNumber ≤ daysBeforeYear (date.year + 1) := by
  have whole : daysBeforeMonth date.year (date.month + 1) ≤ daysBeforeMonth date.year 13 :=
    daysBeforeMonth_le date.year (Nat.succ_le_succ date.month_le)
  have months := date.dayNumber_le_monthEnd
  rw [daysBeforeYear_succ]
  omega

theorem dayNumber_lt_of_year_lt (earlier : date.year < other.year) :
    date.dayNumber < other.dayNumber := by
  have years := daysBeforeYear_le (Int.add_one_le_of_lt earlier)
  have before := date.dayNumber_le_yearEnd
  have behind := other.yearStart_lt_dayNumber
  omega

theorem dayNumber_lt_of_month_lt (same : date.year = other.year)
    (earlier : date.month < other.month) : date.dayNumber < other.dayNumber := by
  have months := daysBeforeMonth_le other.year (Nat.add_one_le_of_lt earlier)
  have before := date.dayNumber_le_monthEnd
  have behind := other.monthStart_lt_dayNumber
  rw [same] at before
  omega

/-- Dates with the same number are the same. -/
theorem dayNumber_injective : Function.Injective dayNumber := by
  intro date other equal
  have years : date.year = other.year := by
    rcases Int.lt_trichotomy date.year other.year with less | same | greater
    · exact absurd equal (Int.ne_of_lt (dayNumber_lt_of_year_lt less))
    · exact same
    · exact absurd equal (Int.ne_of_gt (dayNumber_lt_of_year_lt greater))
  have months : date.month = other.month := by
    rcases Nat.lt_trichotomy date.month other.month with less | same | greater
    · exact absurd equal (Int.ne_of_lt (dayNumber_lt_of_month_lt years less))
    · exact same
    · exact absurd equal (Int.ne_of_gt (dayNumber_lt_of_month_lt years.symm greater))
  have days : date.day = other.day := by
    rw [dayNumber_eq, dayNumber_eq, years, months] at equal
    omega
  obtain ⟨_, _, _, _, _, _, _, _, _⟩ := date
  obtain ⟨_, _, _, _, _, _, _, _, _⟩ := other
  cases years
  cases months
  cases days
  rfl

/-! ### The first and the last date -/

/-- No date comes before the first day of the year -9999. -/
theorem calendarStart_lt_dayNumber (date : Date) : daysBeforeYear (-9999) < date.dayNumber := by
  have years := daysBeforeYear_le date.year_ge
  have behind := date.yearStart_lt_dayNumber
  omega

/-- No date comes after the last day of the year 9999. -/
theorem dayNumber_le_calendarEnd (date : Date) : date.dayNumber ≤ daysBeforeYear 10000 := by
  have years := daysBeforeYear_le (Int.add_le_add_right date.year_le 1)
  have before := date.dayNumber_le_yearEnd
  exact Int.le_trans before years

/-! ### The date after and the date before -/

/-- Parts in their ranges are those of a date. -/
theorem exists_ofParts?_eq {year : Int} {month day : Nat}
    (yearRange : -9999 ≤ year ∧ year ≤ 9999) (monthRange : 1 ≤ month ∧ month ≤ 12)
    (dayRange : 1 ≤ day ∧ day ≤ monthLength year month) :
    ∃ date, ofParts? year month day = some date ∧
      date.dayNumber = daysBeforeYear year + daysBeforeMonth year month + day := by
  let date : Date := ⟨year, month, day, yearRange.1, yearRange.2, monthRange.1, monthRange.2,
    dayRange.1, dayRange.2⟩
  exact ⟨date, date.ofParts?_parts, rfl⟩

/-- Behind any date but the last one there is a date with the number that follows. -/
theorem exists_next?_eq (early : date.dayNumber < daysBeforeYear 10000) :
    ∃ other, date.next? = some other ∧ other.dayNumber = date.dayNumber + 1 := by
  have yearRange := And.intro date.year_ge date.year_le
  have monthRange := And.intro date.month_pos date.month_le
  have own := date.dayNumber_eq
  have fits := date.day_le
  have months := daysBeforeMonth_succ date.year date.month_pos
  unfold next?
  split
  case isTrue within =>
    obtain ⟨other, found, number⟩ := exists_ofParts?_eq yearRange monthRange
      ⟨Nat.le_add_left 1 _, within⟩
    exact ⟨other, found, by omega⟩
  split
  case isTrue full within =>
    obtain ⟨other, found, number⟩ := exists_ofParts?_eq yearRange
      ⟨Nat.le_add_left 1 _, within⟩ ⟨Nat.le_refl 1, monthLength_pos _ _⟩
    exact ⟨other, found, by omega⟩
  case isFalse full whole =>
    have december : date.month = 12 := Nat.le_antisymm date.month_le (Nat.le_of_not_lt whole)
    have yearEnd : date.dayNumber = daysBeforeYear (date.year + 1) := by
      have whole : daysBeforeMonth date.year 13 = daysBeforeMonth date.year (date.month + 1) := by
        rw [december]
      rw [daysBeforeYear_succ]
      omega
    have later : date.year + 1 ≤ 9999 := by
      refine Int.not_lt.mp fun beyond => ?_
      rw [yearEnd] at early
      exact absurd early (Int.not_lt.mpr (daysBeforeYear_le (Int.add_one_le_of_lt beyond)))
    obtain ⟨other, found, number⟩ := exists_ofParts?_eq
      ⟨Int.le_trans yearRange.1 (Int.le_of_lt (Int.lt_succ _)), later⟩
      ⟨Nat.le_refl 1, by decide⟩ ⟨Nat.le_refl 1, monthLength_pos _ _⟩
    rw [daysBeforeMonth_one] at number
    exact ⟨other, found, by omega⟩

/-- Before any date but the first one there is a date with the number that precedes. -/
theorem exists_previous?_eq (late : daysBeforeYear (-9999) + 1 < date.dayNumber) :
    ∃ other, date.previous? = some other ∧ other.dayNumber = date.dayNumber - 1 := by
  have yearRange := And.intro date.year_ge date.year_le
  have monthRange := And.intro date.month_pos date.month_le
  have own := date.dayNumber_eq
  have positive := date.day_pos
  unfold previous?
  split
  case isTrue within =>
    obtain ⟨other, found, number⟩ := exists_ofParts?_eq yearRange monthRange
      ⟨Nat.le_sub_one_of_lt within, Nat.le_trans (Nat.sub_le _ _) date.day_le⟩
    exact ⟨other, found, by omega⟩
  split
  case isTrue start within =>
    have months := daysBeforeMonth_succ date.year (Nat.le_sub_one_of_lt within)
    rw [Nat.sub_add_cancel date.month_pos] at months
    obtain ⟨other, found, number⟩ := exists_ofParts?_eq yearRange
      ⟨Nat.le_sub_one_of_lt within, Nat.le_trans (Nat.sub_le _ _) date.month_le⟩
      ⟨monthLength_pos _ _, Nat.le_refl _⟩
    exact ⟨other, found, by omega⟩
  case isFalse start whole =>
    have january : date.month = 1 := Nat.le_antisymm (Nat.le_of_not_lt whole) date.month_pos
    rw [january, daysBeforeMonth_one] at own
    have earlier : -9999 ≤ date.year - 1 := by
      refine Int.not_lt.mp fun beyond => ?_
      have years := daysBeforeYear_le (Int.le_of_sub_one_lt beyond)
      omega
    have yearStart := daysBeforeYear_succ (date.year - 1)
    rw [Int.sub_add_cancel] at yearStart
    have months : daysBeforeMonth (date.year - 1) 13 = daysBeforeMonth (date.year - 1) 12 + 31 :=
      daysBeforeMonth_succ _ (by decide)
    obtain ⟨other, found, number⟩ : ∃ other, ofParts? (date.year - 1) 12 31 = some other ∧ _ :=
      exists_ofParts?_eq ⟨earlier, Int.le_trans (Int.sub_le_self _ (by decide)) yearRange.2⟩
        ⟨by decide, Nat.le_refl 12⟩ ⟨by decide, Nat.le_refl 31⟩
    exact ⟨other, found, by omega⟩

/-- Behind the last date there is none. -/
theorem exists_lastDate :
    ∃ date : Date, date.dayNumber = daysBeforeYear 10000 ∧ date.next? = none :=
  ⟨⟨9999, 12, 31, by decide, by decide, by decide, by decide, by decide, by decide⟩, by decide,
    by decide⟩

/-- Before the first date there is none. -/
theorem exists_firstDate :
    ∃ date : Date, date.dayNumber = daysBeforeYear (-9999) + 1 ∧ date.previous? = none :=
  ⟨⟨-9999, 1, 1, by decide, by decide, by decide, by decide, by decide, by decide⟩, by decide,
    by decide⟩

theorem next?_eq_some_iff (date other : Date) :
    date.next? = some other ↔ other.dayNumber = date.dayNumber + 1 := by
  rcases Int.lt_or_eq_of_le date.dayNumber_le_calendarEnd with early | same
  case inl =>
    obtain ⟨next, found, number⟩ := exists_next?_eq early
    rw [found, ← number, Option.some_inj, eq_comm, dayNumber_injective.eq_iff]
  case inr =>
    obtain ⟨lastDate, number, nothing⟩ := exists_lastDate
    obtain rfl := dayNumber_injective (same.trans number.symm)
    rw [nothing]
    have inside := other.dayNumber_le_calendarEnd
    exact ⟨nofun, fun beyond => by omega⟩

theorem previous?_eq_some_iff (date other : Date) :
    date.previous? = some other ↔ other.dayNumber = date.dayNumber - 1 := by
  rcases Int.lt_or_eq_of_le (Int.add_one_le_of_lt date.calendarStart_lt_dayNumber) with late | same
  case inl =>
    obtain ⟨previous, found, number⟩ := exists_previous?_eq late
    rw [found, ← number, Option.some_inj, eq_comm, dayNumber_injective.eq_iff]
  case inr =>
    obtain ⟨firstDate, number, nothing⟩ := exists_firstDate
    obtain rfl := dayNumber_injective (number.trans same)
    rw [nothing]
    have inside := other.calendarStart_lt_dayNumber
    exact ⟨nofun, fun beyond => by omega⟩

/-! ### Moving by some days -/

/-- The numbers of the dates are all those from the first to the last one. -/
theorem exists_dayNumber_eq_iff (number : Int) :
    (∃ date : Date, date.dayNumber = number) ↔
      daysBeforeYear (-9999) < number ∧ number ≤ daysBeforeYear 10000 := by
  constructor
  · rintro ⟨date, rfl⟩
    exact ⟨date.calendarStart_lt_dayNumber, date.dayNumber_le_calendarEnd⟩
  · rintro ⟨start, greatest⟩
    have least : daysBeforeYear (-9999) + 1 ≤ number := Int.add_one_le_of_lt start
    clear start
    induction number, least using Int.leInduction with
    | base =>
      obtain ⟨date, first, -⟩ := exists_firstDate
      exact ⟨date, first⟩
    | succ number least inductionHypothesis =>
      obtain ⟨date, rfl⟩ := inductionHypothesis (by omega)
      obtain ⟨next, -, follows⟩ := exists_next?_eq (Int.lt_of_add_one_le greatest)
      exact ⟨next, follows⟩

section Walking

variable {step : Date → Option Date} {walk : Nat → Date → Option Date} {sign : Int}

/-- Where each step adds one or takes one off, so many steps add or take off as many. -/
theorem walk_eq_some_iff (start : ∀ date, walk 0 date = some date)
    (further : ∀ days date, walk (days + 1) date = (step date).bind (walk days))
    (unit : sign = 1 ∨ sign = -1)
    (steps : ∀ date other, step date = some other ↔ other.dayNumber = date.dayNumber + sign)
    (days : Nat) (date other : Date) :
    walk days date = some other ↔ other.dayNumber = date.dayNumber + sign * days := by
  induction days generalizing date with
  | zero =>
    rw [start, Option.some_inj, eq_comm, Int.natCast_zero, Int.mul_zero, Int.add_zero,
      dayNumber_injective.eq_iff]
  | succ days inductionHypothesis =>
    have whole : sign * (days + 1 : Nat) = sign + sign * days := by
      rw [Int.natCast_add, Int.natCast_one, Int.mul_add, Int.mul_one, Int.add_comm]
    rw [further, Option.bind_eq_some_iff, whole, ← Int.add_assoc]
    constructor
    · rintro ⟨between, first, others⟩
      rw [(inductionHypothesis between).mp others, (steps date between).mp first]
    · intro reached
      -- The step stays between the two dates, so it does not leave the calendar.
      have inside : daysBeforeYear (-9999) < date.dayNumber + sign ∧
          date.dayNumber + sign ≤ daysBeforeYear 10000 := by
        have dates := And.intro date.calendarStart_lt_dayNumber date.dayNumber_le_calendarEnd
        have others := And.intro other.calendarStart_lt_dayNumber other.dayNumber_le_calendarEnd
        rcases unit with rfl | rfl <;> omega
      obtain ⟨between, number⟩ := (exists_dayNumber_eq_iff _).mpr inside
      refine ⟨between, (steps date between).mpr number, (inductionHypothesis between).mpr ?_⟩
      rw [reached, number]

end Walking

/-- Moving by some days adds as many to the number of a date, and fails only where no date has that
number. -/
theorem shift?_eq_some_iff (days : Int) (date other : Date) :
    date.shift? days = some other ↔ other.dayNumber = date.dayNumber + days := by
  unfold shift?
  split
  case isTrue positive =>
    have walked : date.later? days.toNat = some other ↔
        other.dayNumber = date.dayNumber + 1 * days.toNat :=
      walk_eq_some_iff (fun _ => rfl) (fun _ _ => rfl) (.inl rfl) next?_eq_some_iff _ _ _
    rw [walked, Int.one_mul, Int.toNat_of_nonneg positive]
  case isFalse negative =>
    have walked : date.earlier? (-days).toNat = some other ↔
        other.dayNumber = date.dayNumber + -1 * (-days).toNat :=
      walk_eq_some_iff (fun _ => rfl) (fun _ _ => rfl) (.inr rfl) previous?_eq_some_iff _ _ _
    rw [walked, Int.toNat_of_nonneg (by omega), Int.neg_mul_neg, Int.one_mul]

end Date

end SqlRecords
