import IncomeTax.Calendar.Date

/-!
# Periods

A period runs from its first day to its last, both included. A period that ends before it starts is
reversed; it has no days.

## Main definitions

* `Period` — a first and a last day
* `Period.calendarYear?` — a whole year
* `Period.days`, `Period.contains`, `Period.overlaps` — length and position
-/

namespace IncomeTax

/-- The days from a first to a last one, both included. -/
structure Period where
  start : Date
  finish : Date
  deriving DecidableEq

namespace Period

/-- The whole year, if its days are on the calendar. -/
def calendarYear? (year : Int) : Option Period := do
  let start ← Date.of? year 1 1
  let finish ← Date.of? year 12 31
  return ⟨start, finish⟩

/-- Whether the period ends before it starts. -/
def isReversed (p : Period) : Bool := p.finish < p.start

/-- The number of days, zero for a reversed period. -/
def days (p : Period) : Int :=
  if p.isReversed then 0 else p.finish.dayNumber - p.start.dayNumber + 1

/-- Whether the other period starts no earlier and ends no later. -/
def contains (p other : Period) : Bool := p.start ≤ other.start && other.finish ≤ p.finish

/-- Whether neither period ends before the other starts. -/
def overlaps (p other : Period) : Bool := p.start ≤ other.finish && other.start ≤ p.finish

end Period

end IncomeTax
