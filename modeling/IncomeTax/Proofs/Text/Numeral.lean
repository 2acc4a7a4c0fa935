import IncomeTax.Text.Numeral
import Mathlib.Tactic.IntervalCases
import Mathlib.Tactic.Ring

/-!
# Numerals read back

The value of a numeral is that of its digits, each added to ten times what comes before it. A number
that is written in decimal, with or without leading zeros, has itself as its value.

## Main results

* `Text.digitsFrom?_eq_some` — a text of digits has a value
* `Text.natural?_padded`, `Text.natural?_atLeast` — the value of a number as it is written
-/

namespace IncomeTax.Text

variable {c : Char} {cs : List Char} {n : ℕ}

/-! ### Digits -/

theorem digit?_digitChar (n : Fin 10) : digit? (digitChar n) = some (n : ℕ) := by
  revert n
  decide

theorem digit?_eq_some_iff {c : Char} {n : ℕ} : digit? c = some n ↔ n < 10 ∧ c = digitChar n := by
  constructor
  · intro digit
    unfold digit? at digit
    split_ifs at digit with range
    obtain rfl : c.toNat - 48 = n := Option.some.inj digit
    refine ⟨by omega, ?_⟩
    rw [digitChar, Nat.mod_eq_of_lt (by omega), Nat.add_sub_cancel' range.1, Char.ofNat_toNat]
  · rintro ⟨small, rfl⟩
    exact digit?_digitChar ⟨n, small⟩

theorem isDigit_iff : isDigit c = true ↔ 48 ≤ c.toNat ∧ c.toNat ≤ 57 := by
  unfold isDigit digit?
  split <;> simp_all

theorem digit?_of_isDigit (digit : isDigit c = true) : digit? c = some (c.toNat - '0'.toNat) :=
  if_pos (isDigit_iff.1 digit)

theorem toNat_digitChar (n : ℕ) : (digitChar n).toNat = 48 + n % 10 := by
  have each : ∀ d : Fin 10, (digitChar d).toNat = 48 + d := by decide
  have digit := each ⟨n % 10, Nat.mod_lt n (by decide)⟩
  rwa [digitChar, Nat.mod_mod, ← digitChar] at digit

theorem isDigit_digitChar (n : ℕ) : isDigit (digitChar n) = true := by
  rw [isDigit_iff, toNat_digitChar]
  omega

theorem ne_of_isDigit (digit : isDigit c = true) {mark : Char} (other : isDigit mark = false) :
    c ≠ mark := by
  rintro rfl
  exact absurd digit (by simp [other])

/-- A text of digits has a value. -/
theorem digitsFrom?_eq_some (digits : ∀ c ∈ cs, isDigit c = true) (start : ℕ) :
    digitsFrom? start cs = some (Nat.ofDigitChars 10 cs start) := by
  induction cs generalizing start with
  | nil => rfl
  | cons c rest ih =>
    rw [List.forall_mem_cons] at digits
    rw [digitsFrom?, List.foldlM_cons, digit?_of_isDigit digits.1]
    exact (ih digits.2 _).trans (congrArg some Nat.ofDigitChars_cons.symm)

theorem natural?_eq_some (digits : ∀ c ∈ cs, isDigit c = true) (nonempty : cs ≠ []) :
    natural? cs = some (Nat.ofDigitChars 10 cs 0) := by
  rw [natural?, List.isEmpty_eq_false_iff.2 nonempty]
  exact digitsFrom?_eq_some digits 0

/-- More digits never lower a value. -/
theorem le_ofDigitChars (cs : List Char) (start : ℕ) : start ≤ Nat.ofDigitChars 10 cs start := by
  induction cs generalizing start with
  | nil => exact le_rfl
  | cons c rest ih =>
    rw [Nat.ofDigitChars_cons]
    exact le_trans (by omega) (ih _)

/-- A run of digits ends at the first character that is no digit. -/
theorem takeWhile_isDigit_append {rest : List Char} (run : ∀ c ∈ cs, isDigit c = true)
    (ends : rest.takeWhile isDigit = []) : (cs ++ rest).takeWhile isDigit = cs := by
  rw [List.takeWhile_append_of_pos run, ends, List.append_nil]

theorem dropWhile_isDigit_append {rest : List Char} (run : ∀ c ∈ cs, isDigit c = true)
    (ends : rest.takeWhile isDigit = []) : (cs ++ rest).dropWhile isDigit = rest := by
  have whole := List.takeWhile_append_dropWhile (p := isDigit) (l := cs ++ rest)
  rw [takeWhile_isDigit_append run ends] at whole
  exact List.append_cancel_left whole

/-! ### Numbers without leading zeros -/

theorem isDigit_of_mem_numeral (member : c ∈ numeral n) : isDigit c = true := by
  have digit := Nat.isDigit_of_mem_toDigits (by decide) (by decide) member
  rw [Char.isDigit, Bool.and_eq_true, decide_eq_true_eq, decide_eq_true_eq] at digit
  exact isDigit_iff.2 digit

/-- Only zero starts with a zero. -/
theorem head?_numeral_ne (positive : 0 < n) : (numeral n).head? ≠ some '0' := by
  induction n using Nat.strongRecOn with
  | ind n ih =>
    rw [numeral, Nat.toDigits_eq_if (by decide)]
    split
    next small =>
      interval_cases n <;> decide
    next large =>
      -- The first digit is that of the number without its last one.
      have rest := ih (n / 10) (by omega) (by omega)
      rw [numeral] at rest
      cases leading : Nat.toDigits 10 (n / 10) with
      | nil => exact absurd leading Nat.toDigits_ne_nil
      | cons c cs => rwa [leading] at rest

/-! ### Numbers of a given width -/

theorem isDigit_of_mem_padded {width : ℕ} (member : c ∈ padded width n) : isDigit c = true := by
  induction width generalizing n with
  | zero => cases member
  | succ width ih =>
    rcases List.mem_append.1 member with earlier | last
    · exact ih earlier
    · rw [List.mem_singleton.1 last]
      exact isDigit_digitChar n

theorem length_padded (width n : ℕ) : (padded width n).length = width := by
  induction width generalizing n with
  | zero => rfl
  | succ width ih => rw [padded, List.length_append, ih, List.length_singleton]

/-- The last digits of a number are read as the number modulo a power of ten. -/
theorem ofDigitChars_padded (width n start : ℕ) :
    Nat.ofDigitChars 10 (padded width n) start = start * 10 ^ width + n % 10 ^ width := by
  induction width generalizing n with
  | zero => simp [padded, Nat.mod_one]
  | succ width ih =>
    have last : (digitChar n).toNat - '0'.toNat = n % 10 := by
      rw [toNat_digitChar]
      exact Nat.add_sub_cancel_left 48 _
    rw [padded, Nat.ofDigitChars_append, ih, Nat.ofDigitChars_cons, Nat.ofDigitChars_nil, last,
      pow_succ', Nat.mod_mul]
    ring

theorem natural?_padded {width : ℕ} (positive : 0 < width) (small : n < 10 ^ width) :
    natural? (padded width n) = some n := by
  have nonempty : padded width n ≠ [] := by
    rw [← List.length_pos_iff, length_padded]
    exact positive
  rw [natural?_eq_some (fun _ => isDigit_of_mem_padded) nonempty, ofDigitChars_padded, zero_mul,
    zero_add, Nat.mod_eq_of_lt small]

theorem isDigit_of_mem_atLeast {width : ℕ} (member : c ∈ atLeast width n) : isDigit c = true := by
  rcases List.mem_append.1 member with zero | digit
  · rw [List.eq_of_mem_replicate zero]
    rfl
  · exact isDigit_of_mem_numeral digit

theorem natural?_atLeast (width n : ℕ) : natural? (atLeast width n) = some n := by
  have nonempty : atLeast width n ≠ [] :=
    List.append_ne_nil_of_right_ne_nil _ Nat.toDigits_ne_nil
  rw [natural?_eq_some (fun _ => isDigit_of_mem_atLeast) nonempty, atLeast,
    Nat.ofDigitChars_append, Nat.ofDigitChars_replicate_zero, Nat.mul_zero, numeral,
    Nat.ofDigitChars_ten_toDigits]

end IncomeTax.Text
