import IncomeTax.Csv.Cell
import IncomeTax.Proofs.Binary64.Text
import IncomeTax.Proofs.Decimal.Nearest
import IncomeTax.Proofs.Decimal.Notation
import Mathlib.Data.List.DropRight

/-!
# Amounts in cells, read in two ways

An amount that must be there and one that may be missing are read in different ways: the first as a
whole number or through double precision where it can be, the second always as text. A cell that
both accept stands for one number, except that a number with a point or a power loses the digits
that double precision has no room for. Fifteen digits it always keeps.

## Main definitions

* `Text.Notation.Survives` — the fewest digits of the nearest double make the same amount
* `Text.Notation.IsShort` — at most fifteen digits other than zeros at the end
* `Csv.ReadsAlike` — whatever both columns make of a cell is the same number

## Main results

* `Text.Notation.IsShort.survives` — fifteen digits survive double precision
* `Csv.readAmount_cases` — the three ways in which an amount that must be there is read
* `Csv.readsAlike_iff` — exactly which cells read alike
-/

namespace IncomeTax

/-- The amount that the digits make is the same when they are those of the nearest double. -/
def Text.Notation.Survives (n : Text.Notation) : Prop :=
  ∀ a b, Decimal.ofText? n.double.toText = some a → Decimal.ofChars n.chars = .ok b →
    a.toRat = b.toRat

/-- An amount can hold the number, and all digits but at most fifteen are zeros. -/
structure Text.Notation.IsShort (n : Text.Notation) : Prop extends n.Fits where
  few : ∃ k j, k < 10 ^ 15 ∧ n.coefficient = k * 10 ^ j

/-- Nothing is left to trim of a trimmed text. -/
theorem Text.trim_trim (s : String) : Text.trim (Text.trim s) = Text.trim s := by
  have whole : ∀ cs : List Char, trimBoth cs = (cs.dropWhile isBlank).rdropWhile isBlank :=
    fun _ => rfl
  have front : ∀ cs : List Char, (trimBoth cs).dropWhile isBlank = trimBoth cs := by
    intro cs
    rw [whole, List.dropWhile_eq_self_iff]
    intro nonempty
    have first := (List.rdropWhile_prefix isBlank (l := cs.dropWhile isBlank)).getElem nonempty
    rw [first]
    exact List.dropWhile_get_zero_not _ _ _
  have same : trimBoth (trimBoth s.toList) = trimBoth s.toList := by
    rw [whole, front, whole, List.rdropWhile_idempotent]
  rw [Text.trim, Text.trim, String.toList_ofList, same]

/-- A whole number that an amount can hold. -/
theorem Decimal.ofInt?_spec {a : Decimal} {i : ℤ} (made : ofInt? i = some a) :
    i.natAbs < 2 ^ 96 ∧ a.toRat = i := by
  refine ⟨coefficient_lt_of_ofParts? made, ?_⟩
  rw [toRat_of_ofParts? made, pow_zero, div_one, sign_mul_natAbs]

/-- A whole number has neither decimals nor a power. -/
theorem Text.Notation.IsWhole.fits {n : Notation} (whole : n.IsWhole)
    (small : n.coefficient < 2 ^ 96) : n.Fits := by
  refine ⟨small, ?_, ?_⟩ <;> simp [decimals, exponent, whole.1, whole.2]

/-- The double nearest to a number of at most fifteen digits is written as that number. -/
theorem Text.Notation.IsShort.exists_amount {n : Notation} (short : n.IsShort)
    (small : n.size < 2 ^ 96) :
    ∃ a, Decimal.ofText? n.double.toText = some a ∧ a.toRat = n.value := by
  obtain ⟨k, j, few, zeros⟩ := short.few
  have scale := short.scale
  refine Binary64.exists_amount n.sign.isMinus few (q := j + (n.exponent - n.decimals)) ?_
    (by omega) small
  rw [zeros, zpow_add₀ (by norm_num : (10 : ℚ) ≠ 0), zpow_natCast]
  push_cast
  ring

/-- A number of at most fifteen digits survives double precision. -/
theorem Text.Notation.IsShort.survives {n : Notation} (short : n.IsShort) : n.Survives := by
  intro a b shown text
  have value := Decimal.toRat_of_ofChars short.toFits text
  have small : n.size < 2 ^ 96 := by
    have bound := b.abs_toRat_le
    rw [value, abs_value] at bound
    linarith
  obtain ⟨a', shown', value'⟩ := short.exists_amount small
  rw [shown, Option.some.injEq] at shown'
  rw [shown', value', value]

/-- Fifteen digits without a power are few. -/
theorem Text.Notation.isShort_of_length {n : Notation} (plain : n.power = none)
    (few : n.digits.length ≤ 15) : n.IsShort := by
  have small : n.coefficient < 10 ^ 15 := by
    have below : n.coefficient < (0 + 1) * 10 ^ n.digits.length := ofDigitChars_lt n.isDigit
    rw [zero_add, one_mul] at below
    exact below.trans_le (Nat.pow_le_pow_right (by norm_num) few)
  have decimals : n.decimals ≤ n.digits.length := by simp [Notation.decimals, Notation.digits]
  have exponent : n.exponent = 0 := by rw [Notation.exponent, plain, Option.elim_none]
  exact ⟨⟨by omega, by omega, by omega⟩, n.coefficient, 0, small, by simp⟩

/-- Fifteen characters without the mark of a power are few. -/
theorem Text.Notation.isShort_of_chars {n : Notation} {cs : List Char} (spelt : n.chars = cs)
    (small : 'e' ∉ cs) (capital : 'E' ∉ cs) (few : cs.length ≤ 15) : n.IsShort := by
  subst spelt
  have plain : n.power = none := by
    cases power : n.power with
    | none => rfl
    | some p =>
      have mark : p.mark ∈ n.chars := by
        simp [Notation.chars, Notation.unsigned, power, Power.chars]
      rcases p.isMark with same | same
      · exact absurd (same ▸ mark) small
      · exact absurd (same ▸ mark) capital
  refine isShort_of_length plain (le_trans ?_ few)
  cases fraction : n.fraction <;>
    simp [Notation.digits, Notation.chars, Notation.unsigned, Notation.base, fraction] <;> omega

namespace Csv

open Text (Sign Notation isDigit)

variable {least greatest i : ℤ} {cs : List Char} {sign : Sign} {start : ℕ} {s : String}
  {a b : Decimal}

/-! ### Whole numbers -/

/-- Below ten the digits are the decimal ones. -/
theorem filter_hexDigit? (c : Char) : (Text.hexDigit? c).filter (· < 10) = Text.digit? c := by
  unfold Text.hexDigit? Text.digit?
  split_ifs <;> grind [Option.filter]

theorem apply_next (sign : Sign) (start d : ℕ) :
    (if sign.isMinus then ((10 : ℕ) : ℤ) * sign.apply start - d
      else ((10 : ℕ) : ℤ) * sign.apply start + d) = sign.apply (10 * start + d) := by
  unfold Sign.apply
  split_ifs <;> push_cast <;> ring

/-- What is read is made of digits, and is their number with the sign. -/
theorem readDigits_spec
    (read : readDigits 10 sign.isMinus least greatest (sign.apply start) cs = .ok i) :
    (∀ c ∈ cs, isDigit c = true) ∧ i = sign.apply (Nat.ofDigitChars 10 cs start) := by
  induction cs generalizing start with
  | nil => exact ⟨List.forall_mem_nil _, (Except.ok.inj read).symm⟩
  | cons c rest ih =>
    rw [readDigits, filter_hexDigit?] at read
    cases digit : Text.digit? c with
    | none =>
      rw [digit] at read
      cases read
    | some d =>
      rw [digit] at read
      simp only [apply_next] at read
      split at read
      · cases read
      split at read
      · cases read
      obtain ⟨digits, rfl⟩ := ih read
      have isDigit : isDigit c = true := by rw [Text.isDigit, digit]; rfl
      have value := Text.digit?_of_isDigit isDigit
      rw [digit, Option.some.injEq] at value
      rw [List.forall_mem_cons, Nat.ofDigitChars_cons, ← value]
      exact ⟨⟨isDigit, digits⟩, rfl⟩

/-- Digits are read when their number is in the range. -/
theorem readDigits_of_isDigit (digits : ∀ c ∈ cs, isDigit c = true) (low : least ≤ 0)
    (high : 0 ≤ greatest) (above : least ≤ sign.apply (Nat.ofDigitChars 10 cs start))
    (below : sign.apply (Nat.ofDigitChars 10 cs start) ≤ greatest) :
    readDigits 10 sign.isMinus least greatest (sign.apply start) cs =
      .ok (sign.apply (Nat.ofDigitChars 10 cs start)) := by
  induction cs generalizing start with
  | nil => rfl
  | cons c rest ih =>
    rw [List.forall_mem_cons] at digits
    rw [Nat.ofDigitChars_cons] at above below ⊢
    -- The numbers on the way lie between zero and the last one.
    have within := Text.le_ofDigitChars rest (10 * start + (c.toNat - '0'.toNat))
    have inside : ¬sign.apply (10 * start + (c.toNat - '0'.toNat)) < least ∧
        ¬greatest < sign.apply (10 * start + (c.toNat - '0'.toNat)) := by
      unfold Sign.apply at above below ⊢
      split_ifs at above below ⊢ <;> omega
    rw [readDigits, filter_hexDigit?, Text.digit?_of_isDigit digits.1]
    simp only [apply_next]
    rw [if_neg inside.1, if_neg inside.2]
    exact ih digits.2 above below

/-- A whole number that is read is written as one. -/
theorem readSigned_spec (read : readSigned 10 least greatest cs = .ok i) :
    ∃ n : Notation, n.chars = cs ∧ n.IsWhole ∧ i = n.sign.apply n.coefficient := by
  obtain ⟨sign, digits, spelt, nonempty, read⟩ : ∃ (sign : Sign) (digits : List Char),
      cs = sign.chars ++ digits ∧ digits ≠ [] ∧
      readDigits 10 sign.isMinus least greatest (sign.apply 0) digits = .ok i := by
    unfold readSigned at read
    split at read
    · cases read
    next digits =>
      split at read
      · cases read
      next nonempty => exact ⟨.plus, digits, rfl, by simpa using nonempty, read⟩
    next digits =>
      split at read
      · cases read
      next nonempty =>
        rw [Bool.or_eq_true, not_or] at nonempty
        exact ⟨.minus, digits, rfl, by simpa using nonempty.1, read⟩
    next nonempty _ _ => exact ⟨.none, cs, rfl, nonempty, read⟩
  obtain ⟨digit, rfl⟩ := readDigits_spec read
  refine ⟨⟨sign, digits, none, none, by simpa using digit, by simpa using nonempty⟩, ?_,
    ⟨rfl, rfl⟩, ?_⟩
  · simp [Notation.chars, Notation.unsigned, Notation.base, spelt]
  · simp [Notation.coefficient, Notation.digits]

/-- A whole number in the range is read, with a minus sign only if the range has negative
numbers. -/
theorem readSigned_of_isWhole {n : Notation} (whole : n.IsWhole) (low : least ≤ 0)
    (high : 0 ≤ greatest) (signed : n.sign = .minus → least < 0)
    (above : least ≤ n.sign.apply n.coefficient) (below : n.sign.apply n.coefficient ≤ greatest) :
    readSigned 10 least greatest n.chars = .ok (n.sign.apply n.coefficient) := by
  obtain ⟨sign, digits, fraction, power, digit, nonempty⟩ := n
  obtain ⟨rfl, rfl⟩ : fraction = none ∧ power = none := whole
  simp only [Option.getD_none, List.append_nil] at digit nonempty
  simp only [Notation.chars, Notation.unsigned, Notation.base, Notation.coefficient,
    Notation.digits, Option.elim_none, Option.getD_none, List.append_nil] at signed above below ⊢
  have read := readDigits_of_isDigit digit low high above below
  cases digits with
  | nil => exact absurd rfl nonempty
  | cons c rest =>
    cases sign with
    | plus => exact read
    | minus =>
      have negative : (decide (0 ≤ least)) = false := decide_eq_false (by have := signed rfl; omega)
      simp only [Sign.chars, List.cons_append, List.nil_append, readSigned, List.isEmpty_cons,
        negative, Bool.or_false, Bool.false_eq_true, if_false]
      exact read
    | none =>
      have first := digit c List.mem_cons_self
      have plus : c ≠ '+' := Text.ne_of_isDigit first rfl
      have minus : c ≠ '-' := Text.ne_of_isDigit first rfl
      simp only [Sign.chars, List.nil_append]
      unfold readSigned
      split
      next empty => cases empty
      next same => exact absurd (List.cons.inj same).1 plus
      next same => exact absurd (List.cons.inj same).1 minus
      next => exact read

/-! ### Amounts -/

theorem eq_ok_of_toOption {ε α : Type} {outcome : Except ε α} {x : α}
    (found : outcome.toOption = some x) : outcome = .ok x := by
  cases outcome with
  | ok y => exact congrArg Except.ok (Option.some.inj found)
  | error e => cases found

/-- An amount that must be there is read as a whole number of 64 bits, through double precision, or
as text; through double precision only when it is no whole number of 128 bits. -/
theorem readAmount_cases (read : readAmount s = .ok a) :
    (∃ n : Notation, n.chars = s.toList ∧ n.IsWhole ∧ n.coefficient < 2 ^ 96 ∧ a.toRat = n.value) ∨
    (∃ x, Binary64.ofText? s = some x ∧ Decimal.ofText? x.toText = some a ∧
      (readSigned 10 0 (2 ^ 128 - 1) s.toList).toOption = none ∧
      (readSigned 10 (-2 ^ 127) (2 ^ 127 - 1) s.toList).toOption = none) ∨
    Decimal.ofText? s = some a := by
  unfold readAmount at read
  simp only at read
  split at read
  · cases read
  split at read
  · cases read
  split at read
  next i whole =>
    split at read
    next fits =>
      cases read
      obtain ⟨least, greatest, whole⟩ : ∃ least greatest,
          readSigned 10 least greatest s.toList = .ok i := by
        rcases Option.or_eq_some_iff.1 whole with unsigned | ⟨-, signed⟩
        · exact ⟨_, _, eq_ok_of_toOption unsigned⟩
        · exact ⟨_, _, eq_ok_of_toOption signed⟩
      obtain ⟨n, spelt, isWhole, rfl⟩ := readSigned_spec whole
      obtain ⟨small, value⟩ := Decimal.ofInt?_spec fits
      refine .inl ⟨n, spelt, isWhole, ?_, value.trans isWhole.value_eq.symm⟩
      unfold Sign.apply at small
      split at small <;> simpa using small
    next => cases read
  next =>
    split at read
    · cases read
    next wide =>
      rw [Option.or_eq_none_iff] at wide
      split at read
      next x number =>
        split at read
        next a' shown =>
          cases read
          exact .inr (.inl ⟨x, number, shown, wide⟩)
        next => cases read
      next =>
        split at read
        next a' text =>
          cases read
          exact .inr (.inr text)
        next => cases read

/-- A whole number of 96 bits is one of the 128-bit numbers. -/
theorem not_toOption_eq_none {n : Notation} (whole : n.IsWhole) (small : n.coefficient < 2 ^ 96) :
    ¬((readSigned 10 0 (2 ^ 128 - 1) n.chars).toOption = none ∧
      (readSigned 10 (-2 ^ 127) (2 ^ 127 - 1) n.chars).toOption = none) := by
  rintro ⟨unsigned, signed⟩
  have size : (n.coefficient : ℤ) < 2 ^ 96 := by exact_mod_cast small
  rcases eq_or_ne n.sign .minus with minus | plain
  · have value : n.sign.apply n.coefficient = -n.coefficient := by rw [minus]; rfl
    rw [readSigned_of_isWhole whole (by norm_num) (by norm_num) (fun _ => by norm_num)
      (by omega) (by omega)] at signed
    cases signed
  · have value : n.sign.apply n.coefficient = n.coefficient := by
      cases sign : n.sign with
      | minus => exact absurd sign plain
      | none | plus => rfl
    rw [readSigned_of_isWhole whole le_rfl (by norm_num) (fun minus => absurd minus plain)
      (by omega) (by omega)] at unsigned
    cases unsigned

/-- A number with a point or a power is not read as a whole number. -/
theorem readSigned_of_not_isWhole {n : Notation} (broken : ¬n.IsWhole) :
    (readSigned 10 least greatest n.chars).toOption = none := by
  cases read : readSigned 10 least greatest n.chars with
  | error e => rfl
  | ok i =>
    obtain ⟨n', spelt, whole, -⟩ := readSigned_spec read
    rw [Notation.isWhole_iff, spelt, ← Notation.isWhole_iff] at whole
    exact absurd whole broken

/-- A number with a point or a power is read through double precision. -/
theorem readAmount_of_not_isWhole {n : Notation} (spelt : n.chars = s.toList) (broken : ¬n.IsWhole)
    (shown : Decimal.ofText? n.double.toText = some a) : readAmount s = .ok a := by
  -- Digits, signs and the point come before the letters, so the cell is not one of the two words.
  have word : ∀ {word : String} {first : Char} {more : List Char}, word.toList = first :: more →
      58 ≤ first.toNat → (s == word) = false := by
    intro word first more letters large
    obtain ⟨c, rest, start, small⟩ := n.exists_chars
    rw [beq_eq_false_iff_ne]
    rintro rfl
    rw [start, letters] at spelt
    obtain ⟨rfl, -⟩ := List.cons.inj spelt
    omega
  have yes : (s == "true") = false := word rfl (by decide)
  have no : (s == "false") = false := word rfl (by decide)
  have wide : ∀ least greatest, (readSigned 10 least greatest s.toList).toOption = none :=
    fun _ _ => spelt ▸ readSigned_of_not_isWhole broken
  simp only [readAmount, yes, no, wide, Option.or_none, Binary64.ofText?_of_chars spelt, shown,
    Bool.false_eq_true, if_false]

/-- Whatever both columns of amounts make of a cell is the same number. -/
def ReadsAlike (s : String) : Prop :=
  ∀ a b, readAmount s = .ok a → readOptionalAmount s = .ok (some b) → a.toRat = b.toRat

/-- An amount that may be missing is the text of a cell that is not empty. -/
theorem readOptionalAmount_eq_some_iff (trimmed : Text.trim s = s) :
    readOptionalAmount s = .ok (some b) ↔ s ≠ "" ∧ Decimal.ofChars s.toList = .ok b := by
  unfold readOptionalAmount
  rw [trimmed]
  simp only [String.isEmpty_iff]
  split
  next empty => simp [empty]
  next nonempty =>
    rw [Decimal.ofText]
    split <;> simp_all

/-- A trimmed cell reads alike, unless it is a number with a point or a power that does not survive
double precision. -/
theorem readsAlike_iff (cell : String) :
    ReadsAlike (Text.trim cell) ↔
      ∀ n : Notation, n.chars = (Text.trim cell).toList → n.IsWhole ∨ n.Survives := by
  have trimmed := Text.trim_trim cell
  generalize Text.trim cell = s at *
  constructor
  · -- A number with a point or a power reaches both columns, one of them by way of its double.
    intro alike n spelt
    refine or_iff_not_imp_left.2 fun broken a b shown text => ?_
    refine alike a b (readAmount_of_not_isWhole spelt broken shown) ?_
    obtain ⟨c, rest, start, -⟩ := n.exists_chars
    refine (readOptionalAmount_eq_some_iff trimmed).2 ⟨?_, spelt ▸ text⟩
    rintro rfl
    rw [start] at spelt
    cases spelt
  · intro survives a b lower upper
    obtain ⟨-, text⟩ := (readOptionalAmount_eq_some_iff trimmed).1 upper
    rcases readAmount_cases lower with
      ⟨n, spelt, whole, small, value⟩ | ⟨x, read, shown, wide⟩ | same
    · rw [← spelt] at text
      rw [value, Decimal.toRat_of_ofChars (whole.fits small) text]
    · rcases Binary64.ofText?_cases read with ⟨negative, rfl⟩ | rfl | ⟨n, spelt, rfl⟩
      · have refused : Decimal.ofText? (Binary64.infinite negative).toText = none := by
          cases negative <;> decide +kernel
        rw [refused] at shown
        cases shown
      · have refused : Decimal.ofText? Binary64.nan.toText = none := by decide +kernel
        rw [refused] at shown
        cases shown
      · rw [← spelt] at text wide
        rcases survives n spelt with whole | survives
        · -- A whole number that the other column accepts has less than 128 bits.
          have small := Decimal.coefficient_lt_of_ofChars whole text
          exact absurd wide (not_toOption_eq_none whole small)
        · exact survives a b shown text
    · unfold Decimal.ofText? Decimal.ofText at same
      rw [text] at same
      cases same
      rfl

end Csv

end IncomeTax
