import IncomeTax.Identifier.Iban
import IncomeTax.Proofs.Identifier.Slip
import Mathlib.Algebra.Field.ZMod
import Mathlib.Data.Bool.AllAny
import Mathlib.Tactic.LinearCombination
import Mathlib.Tactic.MkIffOfInductiveProp
import Mathlib.Tactic.NormNum.Prime

/-!
# What an account number is, and which slips it shows

The check of an account number takes a remainder character by character. That is the remainder of
one whole number of up to 68 digits, in which a capital takes two places, and the remainders along
the way stay small.

A slip changes this number by a difference of two places of the alphabet times a power of ten, or
times a power of ten less one. Neither is a multiple of 97: the difference is too small, and no
power below the 96th leaves remainder one. The fourth and the fifth character are neighbours too,
although they stand at opposite ends of the whole number.

## Main definitions

* `Iban.wholeNumber`, `Iban.width` — the number that characters make up, and how many digits it has
* `Iban.IsAccount` — the characters are an account number in its compared form
* `Iban.Confusable` — characters of one kind that one can be written for the other

## Main results

* `Iban.remainder_eq` — the remainder that is taken piecewise is that of the whole number
* `Iban.not_slip` — a slip turns no account number into another one
* `Iban.recognises_and_detects` — what is accepted, and that a slip in it is noticed
-/

namespace IncomeTax.Iban

open Text (isBlank isDigit)

/-- The characters of an account number; each stands for its place in this list. -/
def alphabet : List Char := "0123456789ABCDEFGHIJKLMNOPQRSTUVWXYZ".toList

/-- Whether the character is a capital of ASCII. -/
def isCapital (c : Char) : Bool := 'A' ≤ c && c ≤ 'Z'

/-- The number a character stands for, in decimal: 10 for `A` up to 35 for `Z`. -/
def expanded (c : Char) : List Char := Text.numeral (alphabet.idxOf c)

/-- The number whose digits the characters make up. -/
def wholeNumber (cs : List Char) : ℕ := Nat.ofDigitChars 10 (cs.flatMap expanded) 0

/-- The number of these digits. -/
def width (cs : List Char) : ℕ := (cs.flatMap expanded).length

/-- The characters with the first four of them moved to the end. -/
def rearranged (cs : List Char) : List Char := cs.drop 4 ++ cs.take 4

/-- The characters are an account number, written without blanks and in capitals. -/
@[mk_iff]
structure IsAccount (cs : List Char) : Prop where
  length : 15 ≤ cs.length ∧ cs.length ≤ 34
  characters : ∀ c ∈ cs, c ∈ alphabet
  country : ∀ c ∈ cs.take 2, isCapital c = true
  check : ∀ c ∈ (cs.drop 2).take 2, isDigit c = true
  dutch : cs.take 2 = ['N', 'L'] → cs.length = 18 ∧
    (∀ c ∈ (cs.drop 4).take 4, isCapital c = true) ∧ ∀ c ∈ cs.drop 8, isDigit c = true
  remainder : wholeNumber (rearranged cs) % 97 = 1

variable {c c' : Char} {cs cs' before between after : List Char}

/-! ### Single characters -/

theorem value_eq (known : c ∈ alphabet) : value c = alphabet.idxOf c := by
  have each : ∀ c ∈ alphabet, value c = alphabet.idxOf c :=
    List.all_iff_forall_prop.1 (by decide +kernel)
  exact each c known

theorem idxOf_lt (known : c ∈ alphabet) : alphabet.idxOf c < 36 :=
  List.idxOf_lt_length_of_mem known

theorem idxOf_lt_ten_iff (known : c ∈ alphabet) : alphabet.idxOf c < 10 ↔ isDigit c = true := by
  have each : ∀ c ∈ alphabet, alphabet.idxOf c < 10 ↔ isDigit c = true :=
    List.all_iff_forall_prop.1 (by decide +kernel)
  exact each c known

/-- A digit takes one place of the whole number, and a capital two. -/
theorem width_singleton (known : c ∈ alphabet) :
    width [c] = if isDigit c = true then 1 else 2 := by
  have each : ∀ c ∈ alphabet, width [c] = if isDigit c = true then 1 else 2 :=
    List.all_iff_forall_prop.1 (by decide +kernel)
  exact each c known

theorem isLetter_iff :
    isLetter c = true ↔ 65 ≤ c.toNat ∧ c.toNat ≤ 90 ∨ 97 ≤ c.toNat ∧ c.toNat ≤ 122 := by
  simp [isLetter]

theorem isDigit_eq_false_of_isLetter (letter : isLetter c = true) : isDigit c = false := by
  rw [isLetter_iff] at letter
  rw [← Bool.not_eq_true, Text.isDigit_iff]
  omega

/-- The compared form has no small letters. -/
theorem not_small_capital (c : Char) : (capital c).toNat < 97 ∨ 122 < (capital c).toNat := by
  have each : ∀ n < 123, 97 ≤ n → (Char.ofNat (n - 32)).toNat < 97 := by decide
  rw [capital]
  split_ifs with small <;> rw [Bool.and_eq_true, decide_eq_true_eq, decide_eq_true_eq] at small
  · exact .inl (each _ (by omega) small.1)
  · omega

theorem isDigit_capital (c : Char) : isDigit (capital c) = isDigit c := by
  have each : ∀ n < 123, 97 ≤ n → isDigit (Char.ofNat (n - 32)) = false := by decide
  rw [capital]
  split_ifs with small
  · rw [Bool.and_eq_true, decide_eq_true_eq, decide_eq_true_eq] at small
    rw [each _ (by omega) small.1, isDigit_eq_false_of_isLetter (isLetter_iff.2 (.inr small))]
  · rfl

theorem isLetter_eq_isCapital (capitals : c.toNat < 97 ∨ 122 < c.toNat) :
    isLetter c = isCapital c := by
  have order : isCapital c = true ↔ 65 ≤ c.toNat ∧ c.toNat ≤ 90 := by
    rw [isCapital, Bool.and_eq_true, decide_eq_true_eq, decide_eq_true_eq]
    exact Iff.rfl
  rw [Bool.eq_iff_iff, isLetter_iff, order]
  omega

theorem isLetter_or_isDigit_iff (capitals : c.toNat < 97 ∨ 122 < c.toNat) :
    (isLetter c || isDigit c) = true ↔ c ∈ alphabet := by
  have each : ∀ n < 91, 48 ≤ n ∧ n ≤ 57 ∨ 65 ≤ n ∧ n ≤ 90 → Char.ofNat n ∈ alphabet := by decide
  have range : ∀ c ∈ alphabet, (isLetter c || isDigit c) = true :=
    List.all_iff_forall_prop.1 (by decide +kernel)
  refine ⟨fun sign => ?_, range c⟩
  rw [Bool.or_eq_true, Text.isDigit_iff, isLetter_iff] at sign
  rw [← Char.ofNat_toNat c]
  exact each _ (by omega) (by omega)

theorem isBlank_eq_false (sign : (isLetter c || isDigit c) = true) : isBlank c = false := by
  have each : ∀ n ∈ Text.blankCodes, n < 48 ∨ 122 < n := by decide
  rw [Bool.or_eq_true, Text.isDigit_iff, isLetter_iff] at sign
  rw [isBlank, List.contains_eq_mem, decide_eq_false_iff_not]
  intro blank
  have outside := each _ blank
  omega

/-! ### The compared form -/

theorem not_small_of_mem (member : c ∈ normalizeChars cs) : c.toNat < 97 ∨ 122 < c.toNat := by
  obtain ⟨d, -, rfl⟩ := List.mem_map.1 member
  exact not_small_capital d

theorem normalizeChars_append (cs cs' : List Char) :
    normalizeChars (cs ++ cs') = normalizeChars cs ++ normalizeChars cs' := by
  rw [normalizeChars, List.filter_append, List.map_append]
  rfl

theorem normalizeChars_cons (visible : isBlank c = false) (cs : List Char) :
    normalizeChars (c :: cs) = capital c :: normalizeChars cs := by
  rw [normalizeChars, List.filter_cons_of_pos (by simp [visible]), List.map_cons]
  rfl

theorem normalizeChars_eq_nil (blank : ∀ c ∈ cs, isBlank c = true) : normalizeChars cs = [] := by
  rw [normalizeChars, List.filter_eq_nil_iff.2 fun c member => by simp [blank c member],
    List.map_nil]

/-! ### The whole number -/

theorem wholeNumber_append (cs cs' : List Char) :
    wholeNumber (cs ++ cs') = 10 ^ width cs' * wholeNumber cs + wholeNumber cs' := by
  rw [wholeNumber, List.flatMap_append, Nat.ofDigitChars_append,
    Nat.ofDigitChars_eq_ofDigitChars_zero]
  rfl

theorem wholeNumber_singleton (c : Char) : wholeNumber [c] = alphabet.idxOf c := by
  rw [wholeNumber, List.flatMap_singleton]
  exact Nat.ofDigitChars_ten_toDigits

theorem wholeNumber_cons (c : Char) (cs : List Char) :
    wholeNumber (c :: cs) = 10 ^ width cs * alphabet.idxOf c + wholeNumber cs := by
  rw [← List.singleton_append, wholeNumber_append, wholeNumber_singleton]

theorem width_append (cs cs' : List Char) : width (cs ++ cs') = width cs + width cs' := by
  rw [width, List.flatMap_append, List.length_append]
  rfl

theorem width_cons (c : Char) (cs : List Char) : width (c :: cs) = width [c] + width cs :=
  width_append [c] cs

theorem width_le (known : ∀ c ∈ cs, c ∈ alphabet) : width cs ≤ 2 * cs.length := by
  induction cs with
  | nil => exact le_rfl
  | cons c rest ih =>
    rw [List.forall_mem_cons] at known
    have narrow : width [c] ≤ 2 := by
      rw [width_singleton known.1]
      split_ifs <;> omega
    have more := ih known.2
    rw [width_cons, List.length_cons]
    omega

/-- A step appends the digits of the character to the number that is divided. -/
theorem step_eq (rem : ℕ) (known : c ∈ alphabet) :
    step rem c = (10 ^ width [c] * rem + alphabet.idxOf c) % 97 := by
  simp only [step, width_singleton known, value_eq known, idxOf_lt_ten_iff known]
  split_ifs
  · rw [pow_one, mul_comm]
  · rw [mul_comm]
    rfl

/-- The steps append all digits, whatever was divided before. -/
theorem foldl_step_eq (known : ∀ c ∈ cs, c ∈ alphabet) (start : ℕ) :
    cs.foldl step (start % 97) = (10 ^ width cs * start + wholeNumber cs) % 97 := by
  induction cs generalizing start with
  | nil => simp [width, wholeNumber]
  | cons c rest ih =>
    rw [List.forall_mem_cons] at known
    rw [List.foldl_cons, step_eq _ known.1, Nat.add_mod, Nat.mul_mod_mod, ← Nat.add_mod,
      ih known.2, wholeNumber_cons, width_cons c rest, pow_add, mul_add, add_assoc, ← mul_assoc,
      mul_comm (10 ^ width [c])]

theorem mem_of_mem_rearranged (member : c ∈ rearranged cs) : c ∈ cs :=
  (List.mem_append.1 member).elim List.mem_of_mem_drop List.mem_of_mem_take

theorem remainder_eq (known : ∀ c ∈ cs, c ∈ alphabet) :
    remainder cs = wholeNumber (rearranged cs) % 97 := by
  have folded := foldl_step_eq (fun c member => known c (mem_of_mem_rearranged member)) 0
  rwa [Nat.mul_zero, Nat.zero_add] at folded

theorem foldl_step_lt {start : ℕ} (small : start < 97) (cs : List Char) :
    cs.foldl step start < 97 := by
  induction cs generalizing start with
  | nil => exact small
  | cons c rest ih =>
    apply ih
    rw [step]
    split_ifs <;> exact Nat.mod_lt _ (by decide)

/-! ### What is accepted -/

theorem mem_alphabet_of_hasShape (capitals : ∀ c ∈ cs, c.toNat < 97 ∨ 122 < c.toNat)
    (shape : hasShape cs = true) : ∀ c ∈ cs, c ∈ alphabet := by
  simp only [hasShape, Bool.and_eq_true, List.all_eq_true] at shape
  exact fun c member => (isLetter_or_isDigit_iff (capitals c member)).1 (shape.1.1.2 c member)

/-- Characters without small letters pass when they are an account number. -/
theorem normalViolation_eq_none_iff (capitals : ∀ c ∈ cs, c.toNat < 97 ∨ 122 < c.toNat) :
    normalViolation cs = none ↔ IsAccount cs := by
  have letters (part : List Char) (inside : ∀ c ∈ part, c ∈ cs) :
      part.all isLetter = true ↔ ∀ c ∈ part, isCapital c = true := by
    rw [List.all_eq_true]
    exact forall₂_congr fun c member => by rw [isLetter_eq_isCapital (capitals c (inside c member))]
  have known : (cs.all fun c => isLetter c || isDigit c) = true ↔ ∀ c ∈ cs, c ∈ alphabet := by
    rw [List.all_eq_true]
    exact forall₂_congr fun c member => isLetter_or_isDigit_iff (capitals c member)
  have shape : hasShape cs = true ↔ (15 ≤ cs.length ∧ cs.length ≤ 34) ∧ (∀ c ∈ cs, c ∈ alphabet) ∧
      (∀ c ∈ cs.take 2, isCapital c = true) ∧ ∀ c ∈ (cs.drop 2).take 2, isDigit c = true := by
    rw [hasShape, Bool.and_eq_true, Bool.and_eq_true, Bool.and_eq_true, Bool.and_eq_true, known,
      letters _ fun _ => List.mem_of_mem_take]
    simp [and_assoc]
  have country : hasCountryShape cs = true ↔ (cs.take 2 = ['N', 'L'] → cs.length = 18 ∧
      (∀ c ∈ (cs.drop 4).take 4, isCapital c = true) ∧ ∀ c ∈ cs.drop 8, isDigit c = true) := by
    rw [hasCountryShape, Bool.or_eq_true, Bool.and_eq_true, Bool.and_eq_true,
      letters _ fun _ member => List.mem_of_mem_drop (List.mem_of_mem_take member)]
    by_cases dutch : cs.take 2 = ['N', 'L'] <;> simp [dutch, and_assoc]
  have accepted : normalViolation cs = none ↔
      (hasShape cs = true ∧ hasCountryShape cs = true) ∧ remainder cs = 1 := by
    rw [normalViolation]
    cases hasShape cs <;> cases hasCountryShape cs <;> simp
  rw [accepted, shape, country, isAccount_iff]
  constructor
  · rintro ⟨⟨⟨length, characters, letters, digits⟩, dutch⟩, one⟩
    exact ⟨length, characters, letters, digits, dutch, remainder_eq characters ▸ one⟩
  · rintro ⟨length, characters, letters, digits, dutch, one⟩
    exact ⟨⟨⟨length, characters, letters, digits⟩, dutch⟩, (remainder_eq characters).trans one⟩

/-- The check accepts the texts whose compared form is an account number. -/
theorem violation_eq_none_iff {s : String} :
    violation s = none ↔ IsAccount (normalizeChars s.toList) :=
  normalViolation_eq_none_iff fun _ => not_small_of_mem

/-! ### Slips seen modulo 97 -/

instance fact_prime_97 : Fact (Nat.Prime 97) := ⟨by norm_num⟩

theorem ten_ne_zero : (10 : ZMod 97) ≠ 0 := by decide

/-- The powers of ten come back to one with the 96th only. -/
theorem ten_pow_ne_one {k : ℕ} (positive : 0 < k) (below : k < 96) : (10 : ZMod 97) ^ k ≠ 1 := by
  have each : ∀ k < 96, 0 < k → (10 : ZMod 97) ^ k ≠ 1 := by decide +kernel
  exact each k below positive

theorem cast_wholeNumber_append (cs cs' : List Char) :
    (wholeNumber (cs ++ cs') : ZMod 97) = 10 ^ width cs' * wholeNumber cs + wholeNumber cs' := by
  rw [wholeNumber_append]
  push_cast
  rfl

theorem cast_wholeNumber_cons (c : Char) (cs : List Char) :
    (wholeNumber (c :: cs) : ZMod 97) =
      10 ^ width cs * (alphabet.idxOf c : ℕ) + wholeNumber cs := by
  rw [wholeNumber_cons]
  push_cast
  rfl

theorem IsAccount.cast_wholeNumber (account : IsAccount cs) :
    (wholeNumber (rearranged cs) : ZMod 97) = 1 := by
  have one := (ZMod.natCast_eq_natCast_iff' (wholeNumber (rearranged cs)) 1 97).2 account.remainder
  rwa [Nat.cast_one] at one

section Slips

variable (known : c ∈ alphabet) (known' : c' ∈ alphabet)

include known known'

/-- Two places of the alphabet that agree modulo 97, up to a factor, are the same. -/
theorem eq_of_mul_idxOf_eq {factor : ZMod 97} (unit : factor ≠ 0)
    (same : factor * (alphabet.idxOf c : ℕ) = factor * (alphabet.idxOf c' : ℕ)) : c = c' := by
  have small (c : Char) (known : c ∈ alphabet) : alphabet.idxOf c % 97 = alphabet.idxOf c :=
    Nat.mod_eq_of_lt ((idxOf_lt known).trans (by decide))
  have places := mul_left_cancel₀ unit same
  rw [ZMod.natCast_eq_natCast_iff', small c known, small c' known'] at places
  exact (List.idxOf_inj known).1 places

theorem eq_of_replaced (alike : width [c] = width [c'])
    (same : (wholeNumber (before ++ c :: after) : ZMod 97) = wholeNumber (before ++ c' :: after)) :
    c = c' := by
  have wide : width (c :: after) = width (c' :: after) := by
    rw [width_cons c after, width_cons c' after, alike]
  simp only [cast_wholeNumber_append, cast_wholeNumber_cons, wide] at same
  apply eq_of_mul_idxOf_eq known known' (pow_ne_zero (width after) ten_ne_zero)
  linear_combination same

theorem eq_of_neighbours_swapped (alike : width [c] = width [c'])
    (same : (wholeNumber (before ++ c :: c' :: after) : ZMod 97) =
      wholeNumber (before ++ c' :: c :: after)) : c = c' := by
  have narrow : 0 < width [c'] ∧ width [c'] < 96 := by
    rw [width_singleton known']
    split_ifs <;> omega
  have wide : width (c :: after) = width [c'] + width after := by rw [width_cons c after, alike]
  have wide' : width (c' :: after) = width [c'] + width after := width_cons c' after
  have wider : width (c :: c' :: after) = width (c' :: c :: after) := by
    rw [width_cons c (c' :: after), width_cons c' (c :: after), wide, wide', alike]
  simp only [cast_wholeNumber_append, cast_wholeNumber_cons, wide, wide', wider, pow_add] at same
  -- What is left is the difference of the places, times ten to the width less one.
  have factor : (10 : ZMod 97) ^ width [c'] - 1 ≠ 0 :=
    sub_ne_zero.2 (ten_pow_ne_one narrow.1 narrow.2)
  apply eq_of_mul_idxOf_eq known known'
    (mul_ne_zero factor (pow_ne_zero (width after) ten_ne_zero))
  linear_combination same

theorem eq_of_ends_swapped (one : width [c] = 1) (one' : width [c'] = 1)
    (few : width between < 95)
    (same : (wholeNumber (c :: (between ++ [c'])) : ZMod 97) =
      wholeNumber (c' :: (between ++ [c]))) : c = c' := by
  have wide : width (between ++ [c]) = width between + 1 := by rw [width_append, one]
  have wide' : width (between ++ [c']) = width between + 1 := by rw [width_append, one']
  simp only [cast_wholeNumber_append, cast_wholeNumber_cons, wide, wide', one, one',
    wholeNumber_singleton] at same
  have factor : (10 : ZMod 97) ^ (width between + 1) - 1 ≠ 0 :=
    sub_ne_zero.2 (ten_pow_ne_one (by omega) (by omega))
  apply eq_of_mul_idxOf_eq known known' factor
  linear_combination same

end Slips

/-! ### Slips in the rearranged characters -/

theorem exists_rearranged_replaced (before after : List Char) :
    ∃ before' after', ∀ c, rearranged (before ++ c :: after) = before' ++ c :: after' := by
  by_cases early : before.length < 4
  · refine ⟨after.drop (3 - before.length) ++ before, after.take (3 - before.length), fun c => ?_⟩
    have room : 4 - before.length = 3 - before.length + 1 := by omega
    simp [rearranged, List.take_append, List.drop_append, room, List.take_of_length_le early.le,
      List.drop_eq_nil_of_le early.le]
  · refine ⟨before.drop 4, after ++ before.take 4, fun c => ?_⟩
    have room : 4 - before.length = 0 := by omega
    simp [rearranged, List.take_append, List.drop_append, room]

/-- Neighbours stay neighbours, but for the fourth and the fifth character. -/
theorem exists_rearranged_neighbours (before after : List Char) :
    (∃ before' after', ∀ c c',
      rearranged (before ++ c :: c' :: after) = before' ++ c :: c' :: after') ∨
    before.length = 3 ∧ ∀ c c',
      rearranged (before ++ c :: c' :: after) = c' :: ((after ++ before) ++ [c]) := by
  rcases lt_trichotomy before.length 3 with early | split | late
  · refine .inl ⟨after.drop (2 - before.length) ++ before, after.take (2 - before.length),
      fun c c' => ?_⟩
    have room : 4 - before.length = 2 - before.length + 2 := by omega
    have whole : before.length ≤ 4 := by omega
    simp [rearranged, List.take_append, List.drop_append, room, List.take_of_length_le whole,
      List.drop_eq_nil_of_le whole]
  · refine .inr ⟨split, fun c c' => ?_⟩
    have whole : before.length ≤ 4 := by omega
    simp [rearranged, List.take_append, List.drop_append, split, List.take_of_length_le whole,
      List.drop_eq_nil_of_le whole]
  · refine .inl ⟨before.drop 4, after ++ before.take 4, fun c c' => ?_⟩
    have room : 4 - before.length = 0 := by omega
    simp [rearranged, List.take_append, List.drop_append, room]

/-! ### Slips in a text -/

/-- Two digits or two letters that are not compared as the same character. -/
structure Confusable (c c' : Char) : Prop where
  differ : capital c ≠ capital c'
  alike : isDigit c = true ∧ isDigit c' = true ∨ isLetter c = true ∧ isLetter c' = true

theorem Confusable.isDigit_eq (confusion : Confusable c c') : isDigit c = isDigit c' := by
  rcases confusion.alike with digits | letters
  · rw [digits.1, digits.2]
  · rw [isDigit_eq_false_of_isLetter letters.1, isDigit_eq_false_of_isLetter letters.2]

theorem Confusable.width_eq (confusion : Confusable c c') (known : capital c ∈ alphabet)
    (known' : capital c' ∈ alphabet) : width [capital c] = width [capital c'] := by
  rw [width_singleton known, width_singleton known', isDigit_capital, isDigit_capital,
    confusion.isDigit_eq]

theorem Confusable.not_blank (confusion : Confusable c c') :
    isBlank c = false ∧ isBlank c' = false := by
  rcases confusion.alike with ⟨sign, sign'⟩ | ⟨sign, sign'⟩ <;>
    exact ⟨isBlank_eq_false (by simp [sign]), isBlank_eq_false (by simp [sign'])⟩

/-- A slip turns no account number into another one. -/
theorem not_slip (account : IsAccount (normalizeChars cs))
    (account' : IsAccount (normalizeChars cs')) :
    ¬ Text.Slip Confusable (isBlank · = true) cs cs' := by
  intro slip
  -- Both rearranged numbers leave the remainder one, so their difference is zero modulo 97.
  have same := account.cast_wholeNumber.trans account'.cast_wholeNumber.symm
  cases slip with
  | @replaced before after c c' confusion =>
    obtain ⟨visible, visible'⟩ := confusion.not_blank
    rw [normalizeChars_append, normalizeChars_cons visible] at account same
    rw [normalizeChars_append, normalizeChars_cons visible'] at account' same
    have known : capital c ∈ alphabet := account.characters _ (by simp)
    have known' : capital c' ∈ alphabet := account'.characters _ (by simp)
    obtain ⟨before', after', moved⟩ :=
      exists_rearranged_replaced (normalizeChars before) (normalizeChars after)
    rw [moved, moved] at same
    exact confusion.differ (eq_of_replaced known known' (confusion.width_eq known known') same)
  | @swapped before between after c c' confusion passed =>
    obtain ⟨visible, visible'⟩ := confusion.not_blank
    -- In the compared form nothing stands between the two.
    have compared {d d' : Char} (visible : isBlank d = false) (visible' : isBlank d' = false) :
        normalizeChars (before ++ d :: (between ++ d' :: after)) =
          normalizeChars before ++ capital d :: capital d' :: normalizeChars after := by
      rw [normalizeChars_append, normalizeChars_cons visible, normalizeChars_append,
        normalizeChars_cons visible', normalizeChars_eq_nil passed, List.nil_append]
    rw [compared visible visible'] at account same
    rw [compared visible' visible] at account' same
    have known : capital c ∈ alphabet := account.characters _ (by simp)
    have known' : capital c' ∈ alphabet := account.characters _ (by simp)
    have alike := confusion.width_eq known known'
    rcases exists_rearranged_neighbours (normalizeChars before) (normalizeChars after) with
      ⟨before', after', moved⟩ | ⟨split, moved⟩
    · rw [moved, moved] at same
      exact confusion.differ (eq_of_neighbours_swapped known known' alike same)
    · -- The fourth character is a check digit, so the fifth is a digit as well.
      rw [moved, moved] at same
      have digit : isDigit (capital c) = true := account.check _ (by
        simp [List.drop_append, split, List.take_append])
      have one : width [capital c] = 1 := by rw [width_singleton known, if_pos digit]
      have narrow : width (normalizeChars after ++ normalizeChars before) ≤ 2 * _ :=
        width_le fun d member => account.characters d (by
          rw [List.mem_append, List.mem_cons, List.mem_cons]
          rcases List.mem_append.1 member with late | early
          · exact .inr (.inr (.inr late))
          · exact .inl early)
      have few : width (normalizeChars after ++ normalizeChars before) < 95 := by
        have short := account.length.2
        simp only [List.length_append, List.length_cons] at narrow short
        omega
      exact confusion.differ.symm
        (eq_of_ends_swapped known' known (alike.symm.trans one) one few same)

/-- The check accepts exactly the account numbers, blanks and the case of letters apart. The
remainder it takes is that of the whole number, and no number along the way has more than 32 bits.
When a character of an accepted number is replaced by another one of its kind, or two neighbours of
one kind change places, the result is refused. -/
theorem recognises_and_detects (s : String) :
    (violation s = none ↔ IsAccount (normalizeChars s.toList)) ∧
      (hasShape (normalizeChars s.toList) = true →
        remainder (normalizeChars s.toList) =
          wholeNumber (rearranged (normalizeChars s.toList)) % 97 ∧
        ∀ before c after, rearranged (normalizeChars s.toList) = before ++ c :: after →
          before.foldl step 0 * 100 + value c < 2 ^ 32) ∧
      (violation s = none → ∀ t : String,
        Text.Slip Confusable (isBlank · = true) s.toList t.toList → violation t ≠ none) := by
  refine ⟨violation_eq_none_iff, fun shape => ?_, fun accepted t slip accepted' => ?_⟩
  · have known := mem_alphabet_of_hasShape (fun _ => not_small_of_mem) shape
    refine ⟨remainder_eq known, fun before c after parts => ?_⟩
    have member : c ∈ normalizeChars s.toList := mem_of_mem_rearranged (by rw [parts]; simp)
    have rem := foldl_step_lt (by decide : 0 < 97) before
    have small := (value_eq (known c member)).trans_lt (idxOf_lt (known c member))
    omega
  · exact not_slip (violation_eq_none_iff.1 accepted) (violation_eq_none_iff.1 accepted') slip

/-- A letter of the bank is taken for another one, and the fourth and the fifth character change
places across the blank between them. -/
theorem recognises_and_detects_of_samples :
    let slip (s t : String) := Text.Slip Confusable (isBlank · = true) s.toList t.toList
    (violation "NL91 ABNA 0417 1643 00" = none ∧
      slip "NL91 ABNA 0417 1643 00" "NL91 ABmA 0417 1643 00" ∧
      violation "NL91 ABmA 0417 1643 00" ≠ none) ∧
    violation "de89 3704 0044 0532 0130 00" = none ∧
      slip "de89 3704 0044 0532 0130 00" "de83 9704 0044 0532 0130 00" ∧
      violation "de83 9704 0044 0532 0130 00" ≠ none := by
  intro slip
  have accepted : violation "NL91 ABNA 0417 1643 00" = none := by decide +kernel
  have accepted' : violation "de89 3704 0044 0532 0130 00" = none := by decide +kernel
  have replaced : slip "NL91 ABNA 0417 1643 00" "NL91 ABmA 0417 1643 00" :=
    @Text.Slip.replaced _ _ "NL91 AB".toList "A 0417 1643 00".toList 'N' 'm'
      ⟨by decide, by decide⟩
  have swapped : slip "de89 3704 0044 0532 0130 00" "de83 9704 0044 0532 0130 00" :=
    @Text.Slip.swapped _ _ "de8".toList [' '] "704 0044 0532 0130 00".toList '9' '3'
      ⟨by decide, by decide⟩ (List.forall_mem_singleton.2 (by decide))
  obtain ⟨-, -, detects⟩ := recognises_and_detects "NL91 ABNA 0417 1643 00"
  obtain ⟨-, -, detects'⟩ := recognises_and_detects "de89 3704 0044 0532 0130 00"
  exact ⟨⟨accepted, replaced, detects accepted _ replaced⟩, accepted', swapped,
    detects' accepted' _ swapped⟩

end IncomeTax.Iban
