import IncomeTax.Proofs.Decimal.Text
import IncomeTax.Proofs.Text.Notation

/-!
# Notations of amounts

A number whose digits, taken without the point, fit in a coefficient and which has no more decimals
than an amount can have is read without rounding, in plain and in scientific notation.

## Main definitions

* `Text.Notation.Fits` — an amount can hold the number

## Main results

* `Decimal.toRat_of_ofChars` — the amount that is read has the exact value
-/

namespace IncomeTax

/-- An amount can hold the digits as they stand, and also after the power has moved the point. -/
structure Text.Notation.Fits (n : Text.Notation) : Prop where
  coefficient : n.coefficient < 2 ^ 96
  decimals : n.decimals ≤ 28
  scale : n.decimals - n.exponent ≤ 28

namespace Decimal

open Text (Sign Power Notation isDigit)

variable {a b : Decimal} {n : Notation} {negative : Bool} {rest : List Char} {k : ℕ}

/-! ### Plain notation -/

/-- The digits are read into the coefficient, and those after the point counted. -/
theorem readDigits_base (fits : n.coefficient < 2 ^ 96) (decimals : n.decimals ≤ 28) :
    readDigits negative false false 0 0 (n.base ++ rest) =
      readDigits negative n.fraction.isSome true n.coefficient n.decimals rest := by
  obtain ⟨sign, whole, fraction, power, digit, nonempty⟩ := n
  simp only [Notation.base, Notation.coefficient, Notation.digits, Notation.decimals] at *
  rw [Nat.ofDigitChars_append] at fits ⊢
  rw [List.forall_mem_append] at digit
  have whole_fits := (Text.le_ofDigitChars _ _).trans_lt fits
  have no_point : false = true → 0 + whole.length ≤ maxScale := nofun
  rw [List.append_assoc, readDigits_append digit.1 whole_fits no_point]
  cases fraction with
  | none =>
    have seen : whole.isEmpty = false := by simpa using nonempty
    rw [seen]
    rfl
  | some fraction =>
    rw [Option.getD_some] at *
    have seen : (false || !whole.isEmpty || !fraction.isEmpty) = true := by
      simpa [imp_iff_not_or] using nonempty
    have point : Text.digit? '.' = none := by decide
    have short : true = true → 0 + fraction.length ≤ maxScale := fun _ => by
      rw [Nat.zero_add]
      exact decimals
    rw [Option.elim_some, List.cons_append, readDigits, point]
    simp only [beq_self_eq_true, if_true, Bool.false_eq_true, if_false]
    rw [readDigits_append digit.2 fits short, seen, if_pos rfl, Nat.zero_add]
    rfl

/-- The first character after the sign is no sign. -/
theorem ofPlain_sign (n : Notation) (rest : List Char) :
    ofPlain (n.sign.chars ++ (n.base ++ rest)) =
      readDigits n.sign.isMinus false false 0 0 (n.base ++ rest) := by
  cases sign : n.sign with
  | plus | minus => rfl
  | none =>
    obtain ⟨c, more, spelt, first⟩ := n.exists_base
    have plain := Notation.ne_sign first
    rw [spelt]
    simp only [Sign.chars, List.nil_append, List.cons_append]
    unfold ofPlain
    split
    next empty => cases empty
    next minus => exact absurd (List.cons.inj minus).1 plain.1
    next plus => exact absurd (List.cons.inj plus).1 plain.2
    next => rfl

/-- Without a power the digits are read as they stand. -/
theorem ofPlain_base (fits : n.coefficient < 2 ^ 96) (decimals : n.decimals ≤ 28) :
    ∃ a, ofPlain (n.sign.chars ++ n.base) = .ok a ∧ a.scale = n.decimals ∧
      a.toRat = (if n.sign.isMinus then -1 else 1) * (n.coefficient / 10 ^ n.decimals : ℚ) := by
  obtain ⟨a, parts⟩ := ofParts?_of_fits n.sign.isMinus fits decimals
  refine ⟨a, ?_, ?_, toRat_of_ofParts? parts⟩
  · rw [← List.append_nil n.base, ofPlain_sign, readDigits_base fits decimals, readDigits, parts]
    rfl
  · unfold ofParts? at parts
    rw [dif_pos ⟨fits, decimals⟩] at parts
    cases parts
    rfl

/-- A power is no part of plain notation. -/
theorem ofPlain_power (fits : n.coefficient < 2 ^ 96) (decimals : n.decimals ≤ 28) (p : Power) :
    ofPlain (n.sign.chars ++ (n.base ++ p.chars)) = .error .unknownCharacter := by
  rw [ofPlain_sign, readDigits_base fits decimals, Power.chars]
  obtain ⟨mark, sign, digits, isMark, -, -⟩ := p
  rcases isMark with rfl | rfl <;> simp [readDigits, Text.digit?]

/-! ### Scientific notation -/

/-- A division by a power of ten that leaves all decimals is exact. -/
theorem toRat_divideByPower (fits : a.scale + k ≤ 28) :
    (a.divideByPower k).toRat = a.toRat / 10 ^ k := by
  have scaled : (a.divideByPower k).toRat = a.units / 10 ^ (a.scale + k) := by
    rw [divideByPower, dif_pos fits]
    rfl
  rw [scaled, toRat, pow_add, div_div]

/-- A multiplication by a power of ten is exact when it does not overflow. -/
theorem toRat_multiplyByPower (moved : a.multiplyByPower k = some b) :
    b.toRat = a.toRat * 10 ^ k := by
  unfold multiplyByPower at moved
  rw [toRat_eq a]
  split at moved
  next short =>
    obtain ⟨scale, rest⟩ := Nat.exists_eq_add_of_le short
    rw [toRat_of_ofParts? moved, rest, Nat.add_sub_cancel_left, pow_add]
    field_simp
  next long =>
    obtain ⟨more, rest⟩ := Nat.exists_eq_add_of_le (not_le.1 long).le
    rw [toRat_of_ofParts? moved, rest, Nat.add_sub_cancel_left, pow_add, Nat.pow_eq]
    push_cast
    field_simp

/-- What stands before the power has no mark of one. -/
theorem not_mark_of_mem {c : Char} (member : c ∈ n.sign.chars ++ n.base) :
    (!(c == 'e' || c == 'E')) = true := by
  have plain : isDigit c = true ∨ c ∈ ['+', '-', '.'] := by
    obtain ⟨sign, whole, fraction, _, digit, _⟩ := n
    simp only [Notation.base, List.mem_append] at member digit
    rcases member with signed | first | second
    · cases sign <;> simp_all [Sign.chars]
    · exact .inl (digit c (.inl first))
    · cases fraction with
      | none => cases second
      | some fraction =>
        rcases List.mem_cons.1 second with rfl | second
        · exact .inr (by decide)
        · exact .inl (digit c (.inr second))
  rcases plain with digit | mark
  · have lower : c ≠ 'e' := Text.ne_of_isDigit digit rfl
    have upper : c ≠ 'E' := Text.ne_of_isDigit digit rfl
    simp [lower, upper]
  · simp only [List.mem_cons, List.not_mem_nil, or_false] at mark
    rcases mark with rfl | rfl | rfl <;> rfl

/-- An amount, moved by a power whose digits are still to be read. -/
def scaleBy (a : Decimal) (divide : Bool) (digits : List Char) : Except TextError Decimal :=
  match readExponent? digits with
  | none => .error .badExponent
  | some exponent =>
    if maxScale < exponent then .error (.exponentTooLarge exponent)
    else if divide then .ok (a.divideByPower exponent)
    else
      match a.multiplyByPower exponent with
      | some b => .ok b
      | none => .error .tooLarge

/-- The text before the mark is the base, and a minus sign after it means a division. -/
theorem ofScientific_eq (p : Power) (base : ofPlain (n.sign.chars ++ n.base) = .ok a) :
    ofScientific (n.sign.chars ++ (n.base ++ p.chars)) = a.scaleBy p.sign.isMinus
      (if p.sign.isMinus then p.digits else p.sign.chars ++ p.digits) := by
  have unmarked : ∀ c ∈ n.sign.chars ++ n.base, (!(c == 'e' || c == 'E')) = true :=
    fun _ => not_mark_of_mem
  obtain ⟨mark, sign, digits, isMark, digit, nonempty⟩ := p
  have marked : (mark == 'e' || mark == 'E') = true := by
    rcases isMark with rfl | rfl <;> rfl
  have before : (n.sign.chars ++ (n.base ++ mark :: (sign.chars ++ digits))).takeWhile
      (fun c => !(c == 'e' || c == 'E')) = n.sign.chars ++ n.base := by
    rw [← List.append_assoc, List.takeWhile_append_of_pos unmarked,
      List.takeWhile_cons_of_neg (by simp [marked]), List.append_nil]
  have after : ((n.sign.chars ++ (n.base ++ mark :: (sign.chars ++ digits))).dropWhile
      (fun c => !(c == 'e' || c == 'E'))).drop 1 = sign.chars ++ digits := by
    rw [← List.append_assoc, List.dropWhile_append_of_pos unmarked,
      List.dropWhile_cons_of_neg (by simp [marked])]
    rfl
  unfold ofScientific Power.chars
  simp only [before, after, base]
  cases sign with
  | plus | minus => rfl
  | none =>
    cases digits with
    | nil => exact absurd rfl nonempty
    | cons c more =>
      -- A digit is no minus sign.
      have plain : ∀ rest, c :: more ≠ '-' :: rest := fun rest same =>
        Text.ne_of_isDigit (digit c List.mem_cons_self) rfl (List.cons.inj same).1
      simp only [Sign.chars, List.nil_append]
      rfl

/-- The exponent is read from its digits, after a plus sign if there is one. -/
theorem readExponent?_spec {p : Power}
    (read : readExponent?
      (if p.sign.isMinus then p.digits else p.sign.chars ++ p.digits) = some k) :
    k = Nat.ofDigitChars 10 p.digits 0 := by
  obtain ⟨mark, sign, digits, _, digit, nonempty⟩ := p
  have natural := Text.natural?_eq_some digit nonempty
  have unsigned : readExponent? digits = some k → k = Nat.ofDigitChars 10 digits 0 := by
    intro read
    unfold readExponent? at read
    cases digits with
    | nil => exact absurd rfl nonempty
    | cons c more =>
      have plain : c ≠ '+' := Text.ne_of_isDigit (digit c List.mem_cons_self) rfl
      simp only at read
      split at read
      next plus => exact absurd (List.cons.inj plus).1 plain
      next =>
        rw [natural] at read
        exact (Option.some.inj (Option.filter_eq_some_iff.1 read).1).symm
  cases sign with
  | none | minus => exact unsigned read
  | plus =>
    unfold readExponent? at read
    simp only [Sign.isMinus, Sign.chars, Bool.false_eq_true, if_false, List.cons_append,
      List.nil_append, natural] at read
    exact (Option.some.inj (Option.filter_eq_some_iff.1 read).1).symm

/-- The base is moved by the power, when the amount can hold the result. -/
theorem toRat_of_ofScientific {p : Power} (base : ofPlain (n.sign.chars ++ n.base) = .ok a)
    (scale : a.scale - p.exponent ≤ 28)
    (read : ofScientific (n.sign.chars ++ (n.base ++ p.chars)) = .ok b) :
    b.toRat = a.toRat * 10 ^ p.exponent := by
  rw [ofScientific_eq p base, scaleBy] at read
  split at read
  · cases read
  next k exponent =>
    obtain rfl := readExponent?_spec exponent
    split at read
    · cases read
    unfold Power.exponent Sign.apply at scale ⊢
    split at read
    next minus =>
      cases read
      rw [if_pos minus] at scale ⊢
      rw [toRat_divideByPower (by omega), zpow_neg, zpow_natCast, div_eq_mul_inv]
    next plus =>
      rw [if_neg plus, zpow_natCast]
      split at read
      next moved =>
        cases read
        exact toRat_multiplyByPower moved
      next => cases read

/-! ### Either notation -/

/-- A number that an amount can hold is read with its exact value. -/
theorem toRat_of_ofChars (fits : n.Fits) (read : ofChars n.chars = .ok b) : b.toRat = n.value := by
  obtain ⟨a, base, scale, value⟩ := ofPlain_base fits.coefficient fits.decimals
  have moves := fits.scale
  unfold Notation.value Notation.size
  unfold ofChars Notation.chars Notation.unsigned at read
  unfold Notation.exponent at moves ⊢
  rw [zpow_sub₀ (by norm_num : (10 : ℚ) ≠ 0), zpow_natCast]
  cases power : n.power with
  | none =>
    rw [power, Option.elim_none, List.append_nil, base] at read
    cases read
    rw [value, Option.elim_none, zpow_zero]
    ring
  | some p =>
    rw [power, Option.elim_some] at read moves
    have marked :
        (n.sign.chars ++ (n.base ++ p.chars)).any (fun c => c == 'e' || c == 'E') = true :=
      List.any_eq_true.2 ⟨p.mark, by simp [Power.chars], by simpa using p.isMark⟩
    simp only [ofPlain_power fits.coefficient fits.decimals, marked, if_true] at read
    rw [toRat_of_ofScientific base (by rwa [scale]) read, value, Option.elim_some]
    ring

/-- Digits of a whole part that outgrow a coefficient are refused. -/
theorem readDigits_eq_tooLarge {digits : List Char} {coefficient : ℕ} (seen : Bool)
    (run : ∀ c ∈ digits, isDigit c = true) (small : coefficient < coefficientLimit)
    (large : coefficientLimit ≤ Nat.ofDigitChars 10 digits coefficient) :
    readDigits negative false seen coefficient 0 digits = .error .wholePartTooLarge := by
  induction digits generalizing coefficient seen with
  | nil => exact absurd small (not_lt.2 large)
  | cons c more ih =>
    rw [List.forall_mem_cons] at run
    rw [Nat.ofDigitChars_cons] at large
    rw [readDigits, Text.digit?_of_isDigit run.1]
    simp only [Bool.false_and, Bool.false_eq_true, if_false]
    split
    next fits => exact ih true run.2 fits large
    next => rfl

/-- A whole number that is read fits in a coefficient. -/
theorem coefficient_lt_of_ofChars (whole : n.IsWhole) (read : ofChars n.chars = .ok b) :
    n.coefficient < 2 ^ 96 := by
  by_contra large
  have digits : n.base = n.digits := by rw [Notation.base, Notation.digits, whole.1]; rfl
  have run : ∀ c ∈ n.digits, isDigit c = true := n.isDigit
  have refused : ofPlain n.chars = .error .wholePartTooLarge := by
    have spelt := ofPlain_sign n []
    rw [List.append_nil, digits, readDigits_eq_tooLarge false run (by decide) (not_lt.1 large)]
      at spelt
    rwa [Notation.chars, Notation.unsigned, whole.2, Option.elim_none, List.append_nil, digits]
  have unmarked : n.chars.any (fun c => c == 'e' || c == 'E') = false := by
    rw [Notation.chars, Notation.unsigned, whole.2, Option.elim_none, List.append_nil,
      List.any_eq_false]
    intro c member
    have plain := not_mark_of_mem member
    rwa [Bool.not_eq_true', ← Bool.not_eq_true] at plain
  rw [ofChars, refused, unmarked] at read
  cases read

end Decimal

end IncomeTax
