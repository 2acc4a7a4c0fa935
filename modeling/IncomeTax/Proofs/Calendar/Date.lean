import IncomeTax.Calendar.Date
import IncomeTax.Proofs.Text.Numeral

/-!
# Dates read back

A date is the only one with its year, month and day. It is written with them as numerals between
hyphens, and each of them is read back as far as its digits go.

## Main results

* `Date.of?_eq_some_iff`, `Date.eq_of_parts` — a date is known by its parts
* `Date.month_lt`, `Date.day_lt` — two digits are enough for a month and a day
* `Date.ofText?_toText` — a written date is read back
-/

namespace IncomeTax.Date

open Text (isDigit isBlank padded atLeast natural?)

variable {digits rest : List Char} {atMost n : ℕ}

theorem month_lt (day : Date) : day.month < 13 := by
  have real := day.day_mem
  by_contra above
  have none_left : daysInMonth day.year day.month = 0 := by
    unfold daysInMonth
    split <;> omega
  omega

theorem day_lt (day : Date) : day.day < 32 := by
  have real := day.day_mem
  have short : daysInMonth day.year day.month ≤ 31 := by
    unfold daysInMonth
    split <;> (try split) <;> omega
  omega

theorem not_lt_iff {day day' : Date} : ¬ day < day' ↔ day' ≤ day := Bool.not_eq_true _ ▸ Iff.rfl

theorem year_le_of_le {day day' : Date} (le : day ≤ day') : day.year ≤ day'.year := by
  have behind : day'.before day = false := le
  simp only [Date.before, Bool.or_eq_false_iff, decide_eq_false_iff_not, not_lt] at behind
  exact behind.1

/-- No digit is a blank. -/
theorem isBlank_of_isDigit {c : Char} (digit : isDigit c = true) : isBlank c = false := by
  have range := Text.isDigit_iff.1 digit
  simp [isBlank, Text.blankCodes]
  omega

/-- There is no blank to drop before a numeral. -/
theorem dropWhile_isBlank_append (run : ∀ c ∈ digits, isDigit c = true) (nonempty : digits ≠ []) :
    (digits ++ rest).dropWhile isBlank = digits ++ rest := by
  cases digits with
  | nil => exact absurd rfl nonempty
  | cons c more =>
    have digit := isBlank_of_isDigit (run c List.mem_cons_self)
    rw [List.cons_append, List.dropWhile_cons_of_neg (by simp [digit])]

/-- A numeral of at most the given length is read as a whole. -/
theorem readDigits_append (run : ∀ c ∈ digits, isDigit c = true) (value : natural? digits = some n)
    (fits : digits.length ≤ atMost) (ends : rest.takeWhile isDigit = []) :
    readDigits atMost (digits ++ rest) = some (n, rest) := by
  -- What else fits within the length does not start with a digit either.
  have cut : (rest.take (atMost - digits.length)).takeWhile isDigit = [] := by
    cases rest with
    | nil => simp
    | cons c more =>
      have other : isDigit c = false := by simpa [List.takeWhile_cons] using ends
      cases atMost - digits.length <;> simp [other]
  have taken : ((digits ++ rest).take atMost).takeWhile isDigit = digits := by
    rw [List.take_append, List.take_of_length_le fits]
    exact Text.takeWhile_isDigit_append run cut
  unfold readDigits
  simp [taken, value]

theorem readYear_minus (cs : List Char) :
    readYear ('-' :: cs) = (readDigits cs.length cs).map fun (n, rest) => (-(n : ℤ), rest) := rfl

theorem readYear_plus (cs : List Char) :
    readYear ('+' :: cs) = (readDigits cs.length cs).map fun (n, rest) => ((n : ℤ), rest) := rfl

/-- What starts with a digit is read as a year without sign. -/
theorem readYear_of_isDigit {c : Char} (digit : isDigit c = true) :
    readYear (c :: rest) = (readDigits 4 (c :: rest)).map fun (n, rest) => ((n : ℤ), rest) := by
  have unchanged : (c :: rest).dropWhile isBlank = c :: rest :=
    List.dropWhile_cons_of_neg (by simp [isBlank_of_isDigit digit])
  rw [readYear, unchanged]
  split
  next minus => exact absurd (List.cons.inj minus).1 (Text.ne_of_isDigit digit rfl)
  next plus => exact absurd (List.cons.inj plus).1 (Text.ne_of_isDigit digit rfl)
  next => rfl

/-- A year is read back up to the hyphen that comes after it. -/
theorem readYear_yearChars (d : Date) :
    readYear (yearChars d.year ++ '-' :: rest) = some (d.year, '-' :: rest) := by
  have ends : ('-' :: rest).takeWhile isDigit = [] := rfl
  unfold yearChars
  split
  next plain =>
    have run : ∀ c ∈ padded 4 d.year.toNat, isDigit c = true := fun _ => Text.isDigit_of_mem_padded
    have small : d.year.toNat < 10 ^ 4 := by omega
    have read : readDigits 4 (padded 4 d.year.toNat ++ '-' :: rest) =
        some (d.year.toNat, '-' :: rest) :=
      readDigits_append run (Text.natural?_padded (by decide) small)
        (Text.length_padded _ _).le ends
    have value : (d.year.toNat : ℤ) = d.year := Int.toNat_of_nonneg plain.1
    -- The first digit tells the year from one with a sign.
    cases written : padded 4 d.year.toNat with
    | nil => exact absurd (congrArg List.length written) (by simp [Text.length_padded])
    | cons c more =>
      have digit : isDigit c = true := run c (written ▸ List.mem_cons_self)
      rw [written] at read
      rw [List.cons_append] at read ⊢
      simp only [readYear_of_isDigit digit, read, Option.map_some, value]
  next signed =>
    have run : ∀ c ∈ atLeast 4 d.year.natAbs, isDigit c = true := fun _ =>
      Text.isDigit_of_mem_atLeast
    have read := readDigits_append run (Text.natural?_atLeast 4 _)
      (List.sublist_append_left _ ('-' :: rest)).length_le ends
    rcases lt_or_ge d.year 0 with negative | nonneg
    · have value : -(d.year.natAbs : ℤ) = d.year := by omega
      rw [if_pos negative, List.cons_append]
      simp only [readYear_minus, read, Option.map_some, value]
    · have value : (d.year.natAbs : ℤ) = d.year := Int.natAbs_of_nonneg nonneg
      rw [if_neg nonneg.not_gt, List.cons_append]
      simp only [readYear_plus, read, Option.map_some, value]

theorem readPart_padded (small : n < 10 ^ 2) (ends : rest.takeWhile isDigit = []) :
    readPart ('-' :: (padded 2 n ++ rest)) = some (n, rest) := by
  have run : ∀ c ∈ padded 2 n, isDigit c = true := fun _ => Text.isDigit_of_mem_padded
  have nonempty : padded 2 n ≠ [] := List.length_pos_iff.1 (by simp [Text.length_padded])
  have hyphen : ('-' :: (padded 2 n ++ rest)).dropWhile isBlank = '-' :: (padded 2 n ++ rest) := rfl
  rw [readPart, hyphen]
  simp only [dropWhile_isBlank_append run nonempty]
  exact readDigits_append run (Text.natural?_padded (by decide) small)
    (Text.length_padded _ _).le ends

theorem of?_parts (d : Date) : of? d.year d.month d.day = some d :=
  dif_pos ⟨d.year_mem, d.day_mem⟩

/-- There is one day with a given year, month and day of the month, if any. -/
theorem of?_eq_some_iff {year : ℤ} {month day : ℕ} {d : Date} :
    of? year month day = some d ↔ d.year = year ∧ d.month = month ∧ d.day = day := by
  constructor
  · intro found
    unfold of? at found
    split at found <;> cases found
    exact ⟨rfl, rfl, rfl⟩
  · rintro ⟨rfl, rfl, rfl⟩
    exact d.of?_parts

theorem eq_of_parts {day day' : Date} (years : day.year = day'.year)
    (months : day.month = day'.month) (days : day.day = day'.day) : day = day' := by
  have found := of?_eq_some_iff.2 ⟨years, months, days⟩
  rw [of?_parts] at found
  exact (Option.some.inj found).symm

/-- A date is read back from its text. -/
theorem ofText?_toText (d : Date) : ofText? d.toText = some d := by
  have month : d.month < 10 ^ 2 := d.month_lt.trans (by decide)
  have day : d.day < 10 ^ 2 := d.day_lt.trans (by decide)
  have last : readPart ('-' :: padded 2 d.day) = some (d.day, []) := by
    have read : readPart ('-' :: (padded 2 d.day ++ [])) = some (d.day, []) :=
      readPart_padded day rfl
    rwa [List.append_nil] at read
  rw [ofText?, toText, String.toList_ofList, ofChars?, List.append_assoc, List.cons_append,
    readYear_yearChars]
  simp only [Option.bind_eq_bind, Option.bind_some]
  rw [readPart_padded month rfl]
  simp only [Option.bind_some]
  rw [last]
  exact d.of?_parts

end IncomeTax.Date
