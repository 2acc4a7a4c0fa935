import IncomeTax.Proofs.Binary64.Shortest
import IncomeTax.Proofs.Decimal.Text
import IncomeTax.Proofs.Text.Notation

/-!
# Amounts by way of double precision

A number that is written with its fewest digits is written as an amount would be, so it is read back
as one. A decimal of at most fifteen digits that an amount can hold comes out of double precision as
it went in.

## Main definitions

* `Text.Notation.double` — the double nearest to a number as it is written

## Main results

* `Binary64.exists_ofDecimal` — a decimal of moderate size is near to what it is read as
* `Binary64.exists_toText` — a number is written like the amount of its fewest digits
* `Binary64.exists_amount` — a decimal of at most fifteen digits survives
* `Binary64.ofText?_cases` — what is read as a finite number is the notation of one
* `Binary64.ofText?_of_chars` — the notation of a number is read as the double nearest to it
-/

namespace IncomeTax

namespace Text

/-- The number of digits brackets a number. -/
theorem numeral_length_spec {n : ℕ} (positive : 0 < n) :
    10 ^ ((numeral n).length - 1) ≤ n ∧ n < 10 ^ (numeral n).length := by
  have nonempty : 0 < (numeral n).length := List.length_pos_iff.2 Nat.toDigits_ne_nil
  refine ⟨?_, (Nat.length_toDigits_le_iff (by decide) nonempty).1 le_rfl⟩
  rcases Nat.eq_zero_or_pos ((numeral n).length - 1) with one | more
  · rw [one]
    exact positive
  · by_contra small
    have short := (Nat.length_toDigits_le_iff (by decide) more).2 (not_le.1 small)
    rw [← numeral] at short
    omega

end Text

/-- The double nearest to the number. -/
def Text.Notation.double (n : Text.Notation) : Binary64 :=
  Binary64.ofDecimal n.sign.isMinus n.coefficient (n.exponent - n.decimals)

namespace Binary64

open Text (Sign Power Notation isDigit)

variable {n k m : ℕ} {e q : ℤ}

/-! ### Decimals out of double precision -/

/-- A decimal that an amount can hold is near to what it is read as. -/
theorem exists_ofDecimal (negative : Bool) (positive : 0 < n)
    (large : (10 : ℚ) ^ (-28 : ℤ) ≤ n * 10 ^ e) (small : (n * 10 ^ e : ℚ) < 2 ^ (96 : ℤ)) :
    ∃ m f, ofDecimal negative n e = .finite negative m f ∧ IsFull m ∧ IsNear m f (n * 10 ^ e) := by
  obtain ⟨low, high⟩ := Text.numeral_length_spec positive
  have ten : (1 : ℚ) < 10 := by norm_num
  have power : (0 : ℚ) < 10 ^ e := by positivity
  -- The number of digits before the point is moderate.
  have above : -28 < (Text.numeral n).length + e := by
    refine (zpow_lt_zpow_iff_right₀ ten).1 ?_
    calc (10 : ℚ) ^ (-28 : ℤ) ≤ n * 10 ^ e := large
      _ < 10 ^ (Text.numeral n).length * 10 ^ e :=
        mul_lt_mul_of_pos_right (by exact_mod_cast high) power
      _ = 10 ^ ((Text.numeral n).length + e) := by
        rw [zpow_add₀ (by norm_num), zpow_natCast]
  have below : ((Text.numeral n).length - 1 : ℕ) + e < 29 := by
    refine (zpow_lt_zpow_iff_right₀ ten).1 ?_
    calc (10 : ℚ) ^ (((Text.numeral n).length - 1 : ℕ) + e)
      _ = 10 ^ ((Text.numeral n).length - 1) * 10 ^ e := by
        rw [zpow_add₀ (by norm_num), zpow_natCast]
      _ ≤ n * 10 ^ e := mul_le_mul_of_nonneg_right (by exact_mod_cast low) power.le
      _ < 2 ^ (96 : ℤ) := small
      _ < 10 ^ (29 : ℤ) := by norm_num
  have quotient : ((n * 10 ^ e.toNat : ℕ) / (10 ^ (-e).toNat : ℕ) : ℚ) = n * 10 ^ e := by
    rw [zpow_eq_div (by norm_num : (10 : ℚ) ≠ 0) e]
    push_cast
    ring
  unfold ofDecimal
  simp only [Nat.pow_eq]
  rw [if_neg positive.ne', if_neg (by omega), if_neg (by omega), ← quotient]
  refine exists_round negative (Nat.mul_pos positive (Nat.pow_pos (by decide)))
    (Nat.pow_pos (by decide)) ?_ ?_
  · rw [quotient]
    calc (2 : ℚ) ^ (-1000 : ℤ) ≤ 2 ^ (-94 : ℤ) := zpow_le_zpow_right₀ one_le_two (by norm_num)
      _ ≤ 10 ^ (-28 : ℤ) := by norm_num
      _ ≤ n * 10 ^ e := large
  · rw [quotient]
    exact small.trans (zpow_lt_zpow_right₀ one_lt_two (by norm_num))

/-- The digits of a number with a sign, as an amount would have them. -/
theorem toChars_eq (a : Decimal) {c : ℕ} {p : ℤ} (coefficient : a.coefficient = c * 10 ^ p.toNat)
    (scale : a.scale = (-p).toNat) :
    a.toChars = if a.negative then '-' :: positional c p else positional c p := by
  have decimals : (if (-p).toNat = 0 then [] else
        '.' :: Text.padded (-p).toNat (c * 10 ^ p.toNat % 10 ^ (-p).toNat)) =
      if (-p).toNat = 0 then [] else '.' :: Text.padded (-p).toNat (c % 10 ^ (-p).toNat) := by
    split
    · rfl
    next fraction =>
      rw [show p.toNat = 0 by omega, pow_zero, mul_one]
  unfold Decimal.toChars positional
  simp only [coefficient, scale, Nat.pow_eq, decimals]
  cases a.negative <;> rfl

/-- A number whose fewest digits an amount can hold is written like that amount. -/
theorem exists_toText (negative : Bool) {v : ℚ} (nonzero : m ≠ 0) {c : ℕ} {p : ℤ}
    (digits : shortest m e = (c, p)) (value : (c * 10 ^ p : ℚ) = v) (fits : c < 2 ^ 96)
    (small : v < 2 ^ 96) (scale : -28 ≤ p) :
    ∃ a : Decimal, (finite negative m e).toText = a.toText ∧
      a.toRat = (if negative then -1 else 1) * v := by
  have coefficient : c * 10 ^ p.toNat < 2 ^ 96 := by
    rcases le_total 0 p with whole | fraction
    · rw [← Int.toNat_of_nonneg whole, zpow_natCast] at value
      have small : (c * 10 ^ p.toNat : ℚ) < 2 ^ 96 := value.trans_lt small
      exact_mod_cast small
    · rwa [Int.toNat_of_nonpos fraction, pow_zero, mul_one]
  let a : Decimal := ⟨negative, c * 10 ^ p.toNat, (-p).toNat, coefficient, by omega⟩
  refine ⟨a, ?_, ?_⟩
  · rw [toText, Decimal.toText, toChars_eq a rfl rfl, if_neg nonzero, digits]
  · have toRat : a.toRat = (if negative then -1 else 1) *
        ((c * 10 ^ p.toNat : ℕ) / 10 ^ (-p).toNat : ℚ) := a.toRat_eq
    rw [toRat, ← value, zpow_eq_div (by norm_num : (10 : ℚ) ≠ 0) p]
    push_cast
    ring

/-- A decimal of at most fifteen digits that an amount can hold survives double precision. -/
theorem exists_amount (negative : Bool) (few : k < 10 ^ 15)
    (value : (n * 10 ^ e : ℚ) = k * 10 ^ q) (scale : -28 ≤ q) (small : (n * 10 ^ e : ℚ) < 2 ^ 96) :
    ∃ a, Decimal.ofText? (ofDecimal negative n e).toText = some a ∧
      a.toRat = (if negative then -1 else 1) * (n * 10 ^ e) := by
  suffices written : ∃ a : Decimal, (ofDecimal negative n e).toText = a.toText ∧
      a.toRat = (if negative then -1 else 1) * (n * 10 ^ e) by
    obtain ⟨a, same, toRat⟩ := written
    refine ⟨a.unsignedZero, by rw [same, Decimal.ofText?_toText], ?_⟩
    rw [← toRat]
    unfold Decimal.toRat
    rw [Decimal.units_unsignedZero]
    rfl
  rcases Nat.eq_zero_or_pos n with rfl | positive
  · refine ⟨⟨negative, 0, 0, by decide, by decide⟩, ?_, ?_⟩
    · cases negative <;> rfl
    · rw [Decimal.toRat_eq]
      simp
  · have power : (0 : ℚ) < 10 ^ q := by positivity
    have nonzero : k ≠ 0 := by
      rintro rfl
      have : (0 : ℚ) < n * 10 ^ e := by positivity
      rw [value, Nat.cast_zero, zero_mul] at this
      exact this.false
    have large : (10 : ℚ) ^ (-28 : ℤ) ≤ n * 10 ^ e := by
      have one : (1 : ℚ) ≤ k := by exact_mod_cast Nat.one_le_iff_ne_zero.2 nonzero
      rw [value]
      exact (zpow_le_zpow_right₀ (by norm_num) scale).trans (le_mul_of_one_le_left power.le one)
    obtain ⟨m, f, read, full, near⟩ :=
      exists_ofDecimal negative positive large (by exact_mod_cast small)
    rw [value] at near large small ⊢
    obtain ⟨c, p, digits, above, same⟩ :=
      shortest_eq full nonzero few near (large.trans' (by norm_num)) (by exact_mod_cast small)
    rw [read]
    -- A larger power of ten leaves no more digits.
    have fewer : c ≤ k := by
      have power' : (10 : ℚ) ^ q ≤ 10 ^ p := zpow_le_zpow_right₀ (by norm_num) above
      have le : (c * 10 ^ q : ℚ) ≤ k * 10 ^ q :=
        (mul_le_mul_of_nonneg_left power' (Nat.cast_nonneg c)).trans same.le
      exact_mod_cast le_of_mul_le_mul_right le power
    exact exists_toText negative (by have := full.1; omega) digits same
      ((fewer.trans_lt few).trans (by decide)) small (scale.trans above)

/-! ### Numbers read from their notation -/

variable {cs : List Char} {x : Binary64} {negative : Bool}

/-- The number of the digits before and after the point, given what follows them. -/
def ofDigits? (negative : Bool) (whole fraction after : List Char) : Option Binary64 := do
  let n ← Text.natural? (whole ++ fraction)
  let power ← match after with
    | [] => some 0
    | c :: digits => if c == 'e' || c == 'E' then readPower? digits else none
  return ofDecimal negative n (power - fraction.length)

/-- A power is read as its exponent. -/
theorem readPower?_chars (p : Power) : readPower? (p.sign.chars ++ p.digits) = some p.exponent := by
  obtain ⟨mark, sign, digits, isMark, digit, nonempty⟩ := p
  have natural := Text.natural?_eq_some digit nonempty
  unfold readPower?
  cases sign with
  | minus | plus =>
    simp only [Sign.chars, List.cons_append, List.nil_append, natural]
    rfl
  | none =>
    cases digits with
    | nil => exact absurd rfl nonempty
    | cons c more =>
      have first := digit c List.mem_cons_self
      have minus : c ≠ '-' := Text.ne_of_isDigit first rfl
      have plus : c ≠ '+' := Text.ne_of_isDigit first rfl
      simp only [Sign.chars, List.nil_append]
      split
      next same => exact absurd (List.cons.inj same).1 minus
      next same => exact absurd (List.cons.inj same).1 plus
      next =>
        rw [natural]
        rfl

/-- A number is no word. -/
theorem isWord_unsigned (n : Notation) {first : Char} {word : String} {more : List Char}
    (letters : word.toList = first :: more) (small : 97 ≤ first.toNat) :
    isWord word n.unsigned = false := by
  obtain ⟨c, rest, base, digit⟩ := n.exists_base
  have lower : c.toLower.toNat < 97 := by
    rcases digit with digit | rfl
    · have each : ∀ n < 58, 48 ≤ n → (Char.ofNat n).toLower.toNat < 97 := by decide
      obtain ⟨least, greatest⟩ := Text.isDigit_iff.1 digit
      rw [← Char.ofNat_toNat c]
      exact each _ (by omega) least
    · decide
  have differ : c.toLower ≠ first := by
    rintro rfl
    omega
  rw [isWord, Notation.unsigned, base, letters]
  simp [differ]

/-- Digits and a power are read as the double nearest to their number. -/
theorem ofDigits?_eq (negative : Bool) (n : Notation) :
    ofDigits? negative n.whole (n.fraction.getD []) (n.power.elim [] Power.chars) =
      some (ofDecimal negative n.coefficient (n.exponent - n.decimals)) := by
  have natural := Text.natural?_eq_some n.isDigit n.nonempty
  unfold ofDigits? Notation.exponent
  rw [natural]
  cases n.power with
  | none => rfl
  | some p =>
    have marked : (p.mark == 'e' || p.mark == 'E') = true := by
      rcases p.isMark with mark | mark <;> rw [mark] <;> rfl
    simp only [Option.elim_some, Power.chars, marked, if_true, readPower?_chars]
    rfl

/-- A number without its sign is read as the double nearest to it. -/
theorem readMagnitude?_unsigned (negative : Bool) (n : Notation) :
    readMagnitude? negative n.unsigned =
      some (ofDecimal negative n.coefficient (n.exponent - n.decimals)) := by
  have inf : isWord "inf" n.unsigned = false := isWord_unsigned n rfl (by decide)
  have infinity : isWord "infinity" n.unsigned = false := isWord_unsigned n rfl (by decide)
  have nan : isWord "nan" n.unsigned = false := isWord_unsigned n rfl (by decide)
  have digits := ofDigits?_eq negative n
  have run := List.forall_mem_append.1 n.isDigit
  -- The digits end where the power starts.
  have ends : (n.power.elim [] Power.chars).takeWhile isDigit = [] := by
    cases n.power with
    | none => rfl
    | some p =>
      have mark : isDigit p.mark = false := by
        rcases p.isMark with mark | mark <;> rw [mark] <;> rfl
      rw [Option.elim_some, Power.chars, List.takeWhile_cons_of_neg (by simp [mark])]
  rw [← digits]
  unfold readMagnitude? ofDigits?
  rw [inf, infinity, nan, Notation.unsigned, Notation.base]
  cases fraction : n.fraction with
  | none =>
    rw [Option.elim_none, List.append_nil, Text.takeWhile_isDigit_append run.1 ends,
      Text.dropWhile_isDigit_append run.1 ends]
    cases n.power with
    | none => rfl
    | some p =>
      simp only [Option.elim_some, Power.chars]
      rcases p.isMark with mark | mark <;> rw [mark] <;> rfl
  | some f =>
    rw [fraction, Option.getD_some] at run
    have point : ('.' :: (f ++ n.power.elim [] Power.chars)).takeWhile isDigit = [] := by
      rw [List.takeWhile_cons_of_neg (by decide)]
    rw [Option.elim_some, List.append_assoc, List.cons_append,
      Text.takeWhile_isDigit_append run.1 point, Text.dropWhile_isDigit_append run.1 point]
    simp only [Text.takeWhile_isDigit_append run.2 ends, Text.dropWhile_isDigit_append run.2 ends]
    rfl

/-- The notation of a number is read as the double nearest to it. -/
theorem ofText?_of_chars {s : String} {n : Notation} (spelt : n.chars = s.toList) :
    ofText? s = some n.double := by
  rw [Notation.double, ← readMagnitude?_unsigned]
  unfold ofText?
  rw [← spelt, Notation.chars]
  cases n.sign with
  | plus | minus => rfl
  | none =>
    obtain ⟨c, more, base, first⟩ := n.exists_base
    have plain := Notation.ne_sign first
    rw [Notation.unsigned, base]
    simp only [Sign.chars, List.nil_append, List.cons_append]
    split
    next same => exact absurd (List.cons.inj same).1 plain.1
    next same => exact absurd (List.cons.inj same).1 plain.2
    next => rfl

/-! ### Texts read as numbers -/

/-- A power that can be read is written as one. -/
theorem exists_power {c : Char} (mark : c = 'e' ∨ c = 'E') (read : readPower? cs = some e) :
    ∃ p : Power, p.chars = c :: cs := by
  unfold readPower? at read
  split at read
  next digits =>
    obtain ⟨k, read, -⟩ := Option.map_eq_some_iff.1 read
    obtain ⟨n, natural, -⟩ := Option.bind_eq_some_iff.1 read
    obtain ⟨digit, nonempty⟩ := (Text.natural?_eq_some_iff.1 natural).1
    exact ⟨⟨c, .minus, digits, mark, digit, nonempty⟩, rfl⟩
  next digits =>
    obtain ⟨n, natural, -⟩ := Option.map_eq_some_iff.1 read
    obtain ⟨digit, nonempty⟩ := (Text.natural?_eq_some_iff.1 natural).1
    exact ⟨⟨c, .plus, digits, mark, digit, nonempty⟩, rfl⟩
  next =>
    obtain ⟨n, natural, -⟩ := Option.map_eq_some_iff.1 read
    obtain ⟨digit, nonempty⟩ := (Text.natural?_eq_some_iff.1 natural).1
    exact ⟨⟨c, .none, cs, mark, digit, nonempty⟩, rfl⟩

/-- Digits are read up to the first character that is none, and again after a point. -/
theorem exists_parts (negative : Bool) (cs : List Char) :
    ∃ (whole : List Char) (fraction : Option (List Char)) (after : List Char),
      cs = whole ++ (fraction.elim [] ('.' :: ·) ++ after) ∧
      readMagnitude? negative cs =
        if isWord "inf" cs || isWord "infinity" cs then some (.infinite negative)
        else if isWord "nan" cs then some .nan
        else ofDigits? negative whole (fraction.getD []) after := by
  have parts := List.takeWhile_append_dropWhile (p := isDigit) (l := cs)
  unfold readMagnitude?
  by_cases point : ∃ rest, cs.dropWhile isDigit = '.' :: rest
  · obtain ⟨rest, point⟩ := point
    refine ⟨cs.takeWhile isDigit, some (rest.takeWhile isDigit), rest.dropWhile isDigit, ?_, ?_⟩
    · rw [Option.elim_some, List.cons_append, List.takeWhile_append_dropWhile, ← point, parts]
    · rw [point]
      rfl
  · refine ⟨cs.takeWhile isDigit, none, cs.dropWhile isDigit, parts.symm, ?_⟩
    generalize cs.dropWhile isDigit = rest at point
    refine if_congr Iff.rfl rfl (if_congr Iff.rfl rfl ?_)
    simp only
    split
    next more => exact absurd ⟨more, rfl⟩ point
    next => rfl

/-- Digits that make a number are followed by nothing or by a power. -/
theorem exists_power_of_ofDigits? {whole fraction after : List Char}
    (read : ofDigits? negative whole fraction after = some x) :
    ((∀ c ∈ whole ++ fraction, isDigit c = true) ∧ whole ++ fraction ≠ []) ∧
      ∃ power : Option Power, after = power.elim [] Power.chars := by
  obtain ⟨k, natural, read⟩ := Option.bind_eq_some_iff.1 read
  refine ⟨(Text.natural?_eq_some_iff.1 natural).1, ?_⟩
  cases after with
  | nil => exact ⟨none, rfl⟩
  | cons c more =>
    simp only [Bool.or_eq_true, beq_iff_eq] at read
    split at read
    next mark =>
      obtain ⟨k, power, -⟩ := Option.bind_eq_some_iff.1 read
      obtain ⟨p, spelt⟩ := exists_power mark power
      exact ⟨some p, spelt.symm⟩
    next => cases read

/-- What is read as a finite number is written as one. -/
theorem readMagnitude?_cases (sign : Sign) (read : readMagnitude? negative cs = some x) :
    (∃ b, x = .infinite b) ∨ x = .nan ∨ ∃ n : Notation, n.sign = sign ∧ n.unsigned = cs := by
  obtain ⟨whole, fraction, after, parts, same⟩ := exists_parts negative cs
  rw [read] at same
  split at same
  · exact .inl ⟨negative, Option.some.inj same⟩
  split at same
  · exact .inr (.inl (Option.some.inj same))
  obtain ⟨⟨digit, nonempty⟩, power, rfl⟩ := exists_power_of_ofDigits? same.symm
  refine .inr (.inr ⟨⟨sign, whole, fraction, power, digit, nonempty⟩, rfl, ?_⟩)
  rw [parts, Notation.unsigned, Notation.base, List.append_assoc]

/-- What a text is read as: one of the values that are not finite, or the double nearest to the
number it is the notation of. -/
theorem ofText?_cases {s : String} (read : ofText? s = some x) :
    (∃ b, x = .infinite b) ∨ x = .nan ∨ ∃ n : Notation, n.chars = s.toList ∧ x = n.double := by
  -- The sign decides on the reading of the rest.
  obtain ⟨sign, cs, spelt, rest⟩ : ∃ (sign : Sign) (cs : List Char), s.toList = sign.chars ++ cs ∧
      readMagnitude? sign.isMinus cs = some x := by
    unfold ofText? at read
    split at read
    next cs text => exact ⟨.minus, cs, text, read⟩
    next cs text => exact ⟨.plus, cs, text, read⟩
    next => exact ⟨.none, s.toList, rfl, read⟩
  rcases readMagnitude?_cases sign rest with infinite | nan | ⟨n, rfl, rfl⟩
  · exact .inl infinite
  · exact .inr (.inl nan)
  · rw [ofText?_of_chars spelt.symm, Option.some.injEq] at read
    exact .inr (.inr ⟨n, spelt.symm, read.symm⟩)

end Binary64

end IncomeTax
