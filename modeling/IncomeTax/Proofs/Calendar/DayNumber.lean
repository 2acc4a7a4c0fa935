import IncomeTax.Calendar.Period
import IncomeTax.Proofs.Calendar.Date
import Mathlib.Data.Finset.Card
import Mathlib.Order.Monotone.Basic

/-!
# Days are numbered in order

Day numbers run through the months of a year, and on into the next year, without a gap. So one date
comes before another exactly when its number is smaller, and the length of a period is the number of
day numbers from its first day to its last.

## Main definitions

* `daysInYear` — 365 or 366
* `Period.Covers`, `Period.dayNumbers` — the days of a period and their numbers

## Main results

* `Date.daysBeforeYear_succ` — one year follows on another
* `Date.lt_iff_dayNumber`, `Date.le_iff_dayNumber` — dates are in the order of their numbers
* `Period.card_dayNumbers`, `Period.mem_dayNumbers` — how many days a period has, and which
* `Period.overlaps_iff` — periods overlap when they have a day in common
* `Period.calendarYear?_eq_some_iff`, `Period.days_of_calendarYear?` — the ends and the length of a
  year
-/

namespace IncomeTax

/-- The number of days of a year. -/
def daysInYear (year : ℤ) : ℕ := if isLeapYear year then 366 else 365

theorem daysInYear_le (year : ℤ) : daysInYear year ≤ 366 := by
  unfold daysInYear
  split <;> decide

namespace Date

/-! ### Months and years follow on each other -/

theorem daysBeforeMonth_mono (year : ℤ) {month month' : ℕ} (le : month ≤ month') :
    daysBeforeMonth year month ≤ daysBeforeMonth year month' :=
  monotone_nat_of_le_succ (fun _ => Nat.le_add_right _ _) le

/-- The twelve months make up the year. -/
theorem daysBeforeMonth_thirteen (year : ℤ) : daysBeforeMonth year 13 = daysInYear year := by
  simp only [daysBeforeMonth, daysInMonth, daysInYear]
  split <;> rfl

/-- The years follow on each other. -/
theorem daysBeforeYear_succ (year : ℤ) :
    daysBeforeYear (year + 1) = daysBeforeYear year + daysInYear year := by
  -- The quotients by 4, 100 and 400 grow at the years that these numbers divide.
  have leap : isLeapYear year = true ↔
      year % 4 = 0 ∧ (year % 100 ≠ 0 ∨ year % 400 = 0) := by
    simp [isLeapYear]
  unfold daysBeforeYear daysInYear
  split_ifs with long <;> rw [leap] at long <;> omega

theorem daysBeforeYear_mono {year year' : ℤ} (le : year ≤ year') :
    daysBeforeYear year ≤ daysBeforeYear year' := by
  refine monotone_int_of_le_succ (fun year => ?_) le
  rw [daysBeforeYear_succ]
  exact le_add_of_nonneg_right (Int.natCast_nonneg _)

/-! ### Dates are in the order of their numbers -/

variable {day day' : Date}

theorem lt_iff : day < day' ↔ day.year < day'.year ∨ day.year = day'.year ∧
    (day.month < day'.month ∨ day.month = day'.month ∧ day.day < day'.day) := by
  change day.before day' = true ↔ _
  simp [before]

/-- A day comes before the later months of its year. -/
theorem daysBeforeMonth_add_day_le (day : Date) {month : ℕ} (later : day.month < month) :
    daysBeforeMonth day.year day.month + day.day ≤ daysBeforeMonth day.year month :=
  calc daysBeforeMonth day.year day.month + day.day
      ≤ daysBeforeMonth day.year (day.month + 1) := Nat.add_le_add_left day.day_mem.2 _
    _ ≤ daysBeforeMonth day.year month := daysBeforeMonth_mono _ later

/-- A day comes before the later years. -/
theorem dayNumber_le (day : Date) {year : ℤ} (later : day.year < year) :
    day.dayNumber ≤ daysBeforeYear year := by
  have within := day.daysBeforeMonth_add_day_le day.month_lt
  rw [daysBeforeMonth_thirteen] at within
  have next := daysBeforeYear_mono (Int.add_one_le_of_lt later)
  rw [daysBeforeYear_succ] at next
  unfold dayNumber
  omega

theorem dayNumber_lt (lt : day < day') : day.dayNumber < day'.dayNumber := by
  have first := day'.day_mem.1
  rcases lt_iff.1 lt with years | ⟨years, months | ⟨months, days⟩⟩
  · have before := day.dayNumber_le years
    unfold dayNumber at before ⊢
    omega
  · have before := day.daysBeforeMonth_add_day_le months
    unfold dayNumber
    rw [years] at before ⊢
    omega
  · unfold dayNumber
    rw [years, months]
    omega

/-- Dates are in the order of their numbers. -/
theorem lt_iff_dayNumber : day < day' ↔ day.dayNumber < day'.dayNumber := by
  refine ⟨dayNumber_lt, fun smaller => ?_⟩
  by_contra behind
  -- Of two dates one comes before the other, unless they are the same and have one number.
  by_cases after : day' < day
  · exact absurd (dayNumber_lt after) smaller.not_gt
  · rw [lt_iff] at behind after
    have years : day.year = day'.year := by omega
    have months : day.month = day'.month := by omega
    have days : day.day = day'.day := by omega
    unfold dayNumber at smaller
    rw [years, months, days] at smaller
    exact lt_irrefl _ smaller

theorem le_iff_dayNumber : day ≤ day' ↔ day.dayNumber ≤ day'.dayNumber := by
  rw [← not_lt_iff, lt_iff_dayNumber, not_lt]

end Date

namespace Period

variable {p p' year : Period} {y : ℤ}

/-- The day is one of the period. -/
def Covers (p : Period) (day : Date) : Prop := p.start ≤ day ∧ day ≤ p.finish

/-- The numbers of the days of a period, counted on from its first day. -/
def dayNumbers (p : Period) : Finset ℤ :=
  (Finset.range p.days.toNat).image fun passed : ℕ => p.start.dayNumber + passed

theorem isReversed_iff : p.isReversed = true ↔ p.finish.dayNumber < p.start.dayNumber :=
  decide_eq_true_iff.trans Date.lt_iff_dayNumber

theorem days_eq_max (p : Period) :
    p.days = max 0 (p.finish.dayNumber - p.start.dayNumber + 1) := by
  unfold days
  split_ifs with reversed <;> rw [isReversed_iff] at reversed <;> omega

/-- A period is as long as it has day numbers; a reversed one has none. -/
theorem card_dayNumbers (p : Period) : (p.dayNumbers.card : ℤ) = p.days := by
  have nonneg : 0 ≤ p.days := p.days_eq_max.ge.trans' (le_max_left 0 _)
  rw [dayNumbers, Finset.card_image_of_injective _ fun _ _ same => by simpa using same,
    Finset.card_range, Int.toNat_of_nonneg nonneg]

/-- The day numbers run from that of the first day to that of the last one. -/
theorem mem_dayNumbers {number : ℤ} :
    number ∈ p.dayNumbers ↔ p.start.dayNumber ≤ number ∧ number ≤ p.finish.dayNumber := by
  simp only [dayNumbers, Finset.mem_image, Finset.mem_range, days_eq_max]
  constructor
  · rintro ⟨passed, below, rfl⟩
    omega
  · rintro ⟨first, last⟩
    exact ⟨(number - p.start.dayNumber).toNat, by omega, by omega⟩

theorem overlaps_iff_dayNumber : p.overlaps p' = true ↔
    p.start.dayNumber ≤ p'.finish.dayNumber ∧ p'.start.dayNumber ≤ p.finish.dayNumber := by
  simp [overlaps, Date.le_iff_dayNumber]

theorem contains_iff_dayNumber : p.contains p' = true ↔
    p.start.dayNumber ≤ p'.start.dayNumber ∧ p'.finish.dayNumber ≤ p.finish.dayNumber := by
  simp [contains, Date.le_iff_dayNumber]

/-- Two periods that run forward overlap when they have a day in common. -/
theorem overlaps_iff (forward : p.isReversed = false) (forward' : p'.isReversed = false) :
    p.overlaps p' = true ↔ ∃ day, p.Covers day ∧ p'.Covers day := by
  rw [← Bool.not_eq_true, isReversed_iff, not_lt] at forward forward'
  simp only [overlaps_iff_dayNumber, Covers, Date.le_iff_dayNumber]
  constructor
  · rintro ⟨reaches, reaches'⟩
    -- The later one of the two first days is in both.
    rcases le_total p.start.dayNumber p'.start.dayNumber with later | later
    · exact ⟨p'.start, ⟨later, reaches'⟩, le_rfl, forward'⟩
    · exact ⟨p.start, ⟨le_rfl, forward⟩, later, reaches⟩
  · rintro ⟨day, ⟨first, last⟩, first', last'⟩
    exact ⟨first.trans last', first'.trans last⟩

theorem disjoint_dayNumbers (apart : p.overlaps p' = false) :
    Disjoint p.dayNumbers p'.dayNumbers := by
  rw [← Bool.not_eq_true, overlaps_iff_dayNumber] at apart
  refine Finset.disjoint_left.2 fun number member member' => apart ?_
  rw [mem_dayNumbers] at member member'
  exact ⟨member.1.trans member'.2, member'.1.trans member.2⟩

theorem dayNumbers_subset (within : p.contains p' = true) : p'.dayNumbers ⊆ p.dayNumbers := by
  obtain ⟨first, last⟩ := contains_iff_dayNumber.1 within
  intro number member
  rw [mem_dayNumbers] at member ⊢
  exact ⟨first.trans member.1, member.2.trans last⟩

theorem one_le_days (forward : p.isReversed = false) : 1 ≤ p.days := by
  rw [← Bool.not_eq_true, isReversed_iff, not_lt] at forward
  rw [days_eq_max]
  omega

/-- A calendar year runs from the first of January to the 31st of December. -/
theorem calendarYear?_eq_some_iff : calendarYear? y = some year ↔
    (year.start.year = y ∧ year.start.month = 1 ∧ year.start.day = 1) ∧
      year.finish.year = y ∧ year.finish.month = 12 ∧ year.finish.day = 31 := by
  simp only [calendarYear?, Option.bind_eq_bind, Option.bind_eq_some_iff, Date.of?_eq_some_iff]
  constructor
  · rintro ⟨start, first, finish, last, made⟩
    cases made
    exact ⟨first, last⟩
  · rintro ⟨first, last⟩
    exact ⟨year.start, first, year.finish, last, rfl⟩

/-- A calendar year has all the days of the year. -/
theorem days_of_calendarYear? (found : calendarYear? y = some year) : year.days = daysInYear y := by
  obtain ⟨⟨rfl, january, first⟩, same, december, last⟩ := calendarYear?_eq_some_iff.1 found
  -- December is the last month, and it has 31 days.
  have whole : Date.daysBeforeMonth year.start.year 12 + 31 = daysInYear year.start.year :=
    Date.daysBeforeMonth_thirteen year.start.year
  have none_before : Date.daysBeforeMonth year.start.year 1 = 0 := rfl
  simp only [days_eq_max, Date.dayNumber, same, january, first, december, last, none_before]
  omega

end Period

end IncomeTax
