import IncomeTax.Proofs.Text.Numeral
import Mathlib.Algebra.Order.Field.Power
import Mathlib.Algebra.Order.Field.Rat
import Mathlib.Tactic.Positivity

/-!
# Decimal and scientific notation

A number is written with digits before a point, digits after it, and a power of ten; each part may
be missing, as long as there is a digit on one side of the point. It has an exact value, whatever
the number of its digits.

## Main definitions

* `Text.Sign`, `Text.Power` — a sign, and a power of ten as it is written
* `Text.Notation` — a number as it is written, `Text.Notation.chars` its characters
* `Text.Notation.value` — the exact value
-/

namespace IncomeTax.Text

/-- What stands in front of digits. -/
inductive Sign where
  | none
  | plus
  | minus
  deriving DecidableEq

namespace Sign

/-- The characters of the sign. -/
def chars : Sign → List Char
  | none => []
  | plus => ['+']
  | minus => ['-']

/-- Whether the sign turns a number around. -/
def isMinus : Sign → Bool
  | minus => true
  | none | plus => false

/-- The whole number with the sign and the given size. -/
def apply (sign : Sign) (n : ℕ) : ℤ := if sign.isMinus then -n else n

end Sign

/-- A power of ten as it is written: a mark, a sign and at least one digit. -/
structure Power where
  mark : Char
  sign : Sign
  digits : List Char
  isMark : mark = 'e' ∨ mark = 'E'
  isDigit : ∀ c ∈ digits, isDigit c = true
  nonempty : digits ≠ []

namespace Power

/-- The characters of the power. -/
def chars (p : Power) : List Char := p.mark :: (p.sign.chars ++ p.digits)

/-- The exponent. -/
def exponent (p : Power) : ℤ := p.sign.apply (Nat.ofDigitChars 10 p.digits 0)

end Power

/-- A number as it is written, with at least one digit on one side of the point. -/
structure Notation where
  sign : Sign
  whole : List Char
  fraction : Option (List Char)
  power : Option Power
  isDigit : ∀ c ∈ whole ++ fraction.getD [], isDigit c = true
  nonempty : whole ++ fraction.getD [] ≠ []

namespace Notation

/-- All digits but those of the power. -/
def digits (n : Notation) : List Char := n.whole ++ n.fraction.getD []

/-- The digits with the point. -/
def base (n : Notation) : List Char := n.whole ++ n.fraction.elim [] ('.' :: ·)

/-- The characters after the sign. -/
def unsigned (n : Notation) : List Char := n.base ++ n.power.elim [] Power.chars

/-- The characters. -/
def chars (n : Notation) : List Char := n.sign.chars ++ n.unsigned

/-- The number that the digits make up without the point. -/
def coefficient (n : Notation) : ℕ := Nat.ofDigitChars 10 n.digits 0

/-- The number of digits after the point. -/
def decimals (n : Notation) : ℕ := (n.fraction.getD []).length

/-- The exponent of the power, zero without one. -/
def exponent (n : Notation) : ℤ := n.power.elim 0 Power.exponent

/-- The number is written without a point and without a power. -/
def IsWhole (n : Notation) : Prop := n.fraction = none ∧ n.power = none

/-- The value without the sign. -/
def size (n : Notation) : ℚ := n.coefficient * 10 ^ (n.exponent - n.decimals)

/-- The exact value. -/
def value (n : Notation) : ℚ := (if n.sign.isMinus then -1 else 1) * n.size

theorem abs_value (n : Notation) : |n.value| = n.size := by
  have positive : 0 ≤ n.size := by
    unfold size
    positivity
  unfold value
  split <;> simp [abs_of_nonneg positive]

/-- Behind the sign there is a digit or the point. -/
theorem exists_base (n : Notation) :
    ∃ c more, n.base = c :: more ∧ (Text.isDigit c = true ∨ c = '.') := by
  obtain ⟨-, whole, fraction, power, digit, nonempty⟩ := n
  cases whole with
  | cons c whole => exact ⟨c, _, rfl, .inl (digit c (List.mem_append_left _ List.mem_cons_self))⟩
  | nil =>
    cases fraction with
    | none => exact absurd rfl nonempty
    | some fraction => exact ⟨'.', fraction, rfl, .inr rfl⟩

/-- What stands behind the sign is no sign. -/
theorem ne_sign {c : Char} (first : Text.isDigit c = true ∨ c = '.') : c ≠ '-' ∧ c ≠ '+' := by
  rcases first with digit | rfl
  · exact ⟨ne_of_isDigit digit rfl, ne_of_isDigit digit rfl⟩
  · decide

/-- A number starts with no letter. -/
theorem exists_chars (n : Notation) : ∃ c more, n.chars = c :: more ∧ c.toNat < 58 := by
  unfold chars unsigned
  cases n.sign with
  | plus => exact ⟨'+', _, rfl, by decide⟩
  | minus => exact ⟨'-', _, rfl, by decide⟩
  | none =>
    obtain ⟨c, more, base, first⟩ := n.exists_base
    refine ⟨c, _, by rw [base]; rfl, ?_⟩
    rcases first with digit | rfl
    · exact Nat.lt_succ_of_le (isDigit_iff.1 digit).2
    · decide

/-- Whether a number is whole shows in its characters. -/
theorem isWhole_iff {n : Notation} : n.IsWhole ↔
    ∀ c ∈ n.chars, Text.isDigit c = true ∨ c = '+' ∨ c = '-' := by
  unfold IsWhole chars unsigned base
  constructor
  · rintro ⟨fraction, power⟩ c member
    have digit := n.isDigit c
    rw [fraction, power] at *
    simp only [Option.elim_none, List.append_nil, Option.getD_none, List.mem_append] at member digit
    rcases member with signed | inside
    · cases sign : n.sign <;> simp_all [Sign.chars]
    · exact .inl (digit inside)
  · intro plain
    constructor
    · cases fraction : n.fraction with
      | none => rfl
      | some f =>
        have point := plain '.' (by simp [fraction])
        exact absurd point (by decide)
    · cases power : n.power with
      | none => rfl
      | some p =>
        have mark := plain p.mark (by simp [power, Power.chars])
        rcases p.isMark with same | same <;> rw [same] at mark <;> exact absurd mark (by decide)

/-- The exact value of a whole number. -/
theorem IsWhole.value_eq {n : Notation} (whole : n.IsWhole) :
    n.value = n.sign.apply n.coefficient := by
  unfold value size exponent decimals Sign.apply
  rw [whole.1, whole.2]
  split <;> simp

end Notation

/-! ### Reading the parts -/

variable {cs : List Char} {k : ℕ}

/-- Only a text of digits has a value. -/
theorem digitsFrom?_eq_some_iff {start : ℕ} : digitsFrom? start cs = some k ↔
    (∀ c ∈ cs, isDigit c = true) ∧ k = Nat.ofDigitChars 10 cs start := by
  constructor
  · intro found
    suffices digits : ∀ c ∈ cs, isDigit c = true by
      rw [digitsFrom?_eq_some digits] at found
      exact ⟨digits, (Option.some.inj found).symm⟩
    induction cs generalizing start with
    | nil => exact List.forall_mem_nil _
    | cons c rest ih =>
      rw [digitsFrom?, List.foldlM_cons] at found
      obtain ⟨next, read, rest'⟩ := Option.bind_eq_some_iff.1 found
      obtain ⟨d, digit, -⟩ := Option.map_eq_some_iff.1 read
      rw [List.forall_mem_cons]
      exact ⟨by rw [isDigit, digit]; rfl, ih rest'⟩
  · rintro ⟨digits, rfl⟩
    exact digitsFrom?_eq_some digits start

theorem natural?_eq_some_iff : natural? cs = some k ↔
    ((∀ c ∈ cs, isDigit c = true) ∧ cs ≠ []) ∧ k = Nat.ofDigitChars 10 cs 0 := by
  unfold natural?
  cases cs with
  | nil => simp
  | cons c rest => simp [digitsFrom?_eq_some_iff]

/-- A number of digits lies below the power of ten with as many zeros. -/
theorem ofDigitChars_lt {start : ℕ} (digits : ∀ c ∈ cs, isDigit c = true) :
    Nat.ofDigitChars 10 cs start < (start + 1) * 10 ^ cs.length := by
  induction cs generalizing start with
  | nil => simp
  | cons c rest ih =>
    rw [List.forall_mem_cons] at digits
    have digit : c.toNat - '0'.toNat ≤ 9 := by
      have range := isDigit_iff.1 digits.1
      have zero : '0'.toNat = 48 := rfl
      omega
    calc Nat.ofDigitChars 10 (c :: rest) start
      _ = Nat.ofDigitChars 10 rest (10 * start + (c.toNat - '0'.toNat)) := Nat.ofDigitChars_cons
      _ < (10 * start + (c.toNat - '0'.toNat) + 1) * 10 ^ rest.length := ih digits.2
      _ ≤ (10 * (start + 1)) * 10 ^ rest.length := Nat.mul_le_mul_right _ (by omega)
      _ = (start + 1) * 10 ^ (c :: rest).length := by rw [List.length_cons, pow_succ]; ring

end IncomeTax.Text
