import IncomeTax.Proofs.Calendar.DayNumber

/-!
# Whole years are counted by birthdays

The whole years since a birth are the birthdays that have come since. A birthday on the 29th of
February comes on the first of March in a year that has no such day. By the last day of a year every
birthday of that year has come, so the number of whole years is the difference of the years then,
and month and day of the birth play no part.

## Main definitions

* `Date.BirthdayBy` — a birthday has come

## Main results

* `Date.le_wholeYearsUntil_iff` — the whole years are counted by birthdays
* `Date.wholeYearsUntil_finish` — the whole years at the end of a year
-/

namespace IncomeTax.Date

variable {birth day : Date} {years : ℕ} {year : Period} {y : ℤ}

/-- The birthday that completes the given number of years has come by the day. -/
def BirthdayBy (birth : Date) (years : ℕ) (day : Date) : Prop :=
  birth.year + years < day.year ∨ birth.year + years = day.year ∧
    (birth.month < day.month ∨ birth.month = day.month ∧ birth.day ≤ day.day)

/-- At least so many whole years have passed as the last birthday completes. Before the birth there
are none. -/
theorem le_wholeYearsUntil_iff :
    years ≤ birth.wholeYearsUntil day ↔ years = 0 ∨ birth.BirthdayBy years day := by
  have ahead : (day.month < birth.month || (day.month == birth.month && day.day < birth.day)) =
      true ↔ day.month < birth.month ∨ day.month = birth.month ∧ day.day < birth.day := by
    simp
  unfold wholeYearsUntil BirthdayBy
  simp only [lt_iff, ahead]
  split_ifs <;> omega

example :
    let leapDay : Date := ⟨2000, 2, 29, by decide, by decide⟩
    leapDay.wholeYearsUntil ⟨2001, 2, 28, by decide, by decide⟩ = 0 ∧
      leapDay.wholeYearsUntil ⟨2001, 3, 1, by decide, by decide⟩ = 1 := by decide

/-- By the end of a year the birthdays of that year have come. -/
theorem birthdayBy_finish_iff (found : Period.calendarYear? y = some year) :
    birth.BirthdayBy years year.finish ↔ birth.year + years ≤ y := by
  obtain ⟨-, last, december, thirtyFirst⟩ := Period.calendarYear?_eq_some_iff.1 found
  have month := birth.month_lt
  have day := birth.day_lt
  rw [BirthdayBy, last, december, thirtyFirst]
  omega

/-- At the end of a year, as many whole years have passed since an earlier birth as the years
differ by. -/
theorem wholeYearsUntil_finish (found : Period.calendarYear? y = some year)
    (born : birth ≤ year.finish) : (birth.wholeYearsUntil year.finish : ℤ) = y - birth.year := by
  have last := (Period.calendarYear?_eq_some_iff.1 found).2.1
  have order := year_le_of_le born
  rw [last] at order
  have counted (years : ℕ) :
      years ≤ birth.wholeYearsUntil year.finish ↔ years = 0 ∨ birth.year + years ≤ y := by
    rw [le_wholeYearsUntil_iff, birthdayBy_finish_iff found]
  have most := (counted _).1 le_rfl
  have least := (counted (y - birth.year).toNat).2 (by omega)
  omega

end IncomeTax.Date
