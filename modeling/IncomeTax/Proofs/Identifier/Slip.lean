import IncomeTax.Proofs.Identifier.Bsn
import Mathlib.Data.Nat.Prime.Int
import Mathlib.Tactic.Ring

/-!
# Slips of the pen in a citizen-service number

Whoever copies a number may write one character in place of another, or write two characters in each
other's place. The weights of a citizen-service number are not divisible by 11, and no two of them
leave the same remainder. A slip changes the weighted sum by a weight, or by the difference of two
weights, times a difference of two digits, so it is always noticed.

## Main definitions

* `Text.Slip` — one text is the other one with a character replaced, or with two swapped
* `Bsn.weight` — the weight of each of the nine digits

## Main results

* `Bsn.eq_of_replaced`, `Bsn.eq_of_swapped` — two valid sums that differ by a slip do not differ
* `Bsn.accepts_and_detects` — what is accepted, and that a slip in it is noticed
-/

namespace IncomeTax

namespace Text

/-- A text written down with one slip: a character is taken for another one that can be confused
with it, or two of them change places. Nothing but skipped characters stands between those two. -/
inductive Slip (confused : Char → Char → Prop) (skipped : Char → Prop) :
    List Char → List Char → Prop
  | replaced {before after : List Char} {c c' : Char} (confusion : confused c c') :
    Slip confused skipped (before ++ c :: after) (before ++ c' :: after)
  | swapped {before between after : List Char} {c c' : Char} (confusion : confused c c')
    (passed : ∀ b ∈ between, skipped b) :
    Slip confused skipped (before ++ c :: (between ++ c' :: after))
      (before ++ c' :: (between ++ c :: after))

variable {before between after : List Char} {c c' : Char} {k : ℕ}

theorem getElem?_replaced (other : k ≠ before.length) :
    (before ++ c :: after)[k]? = (before ++ c' :: after)[k]? := by
  simp only [List.getElem?_append, List.getElem?_cons]
  grind

theorem getElem?_swapped (other : k ≠ before.length)
    (other' : k ≠ before.length + 1 + between.length) :
    (before ++ c :: (between ++ c' :: after))[k]? =
      (before ++ c' :: (between ++ c :: after))[k]? := by
  simp only [List.getElem?_append, List.getElem?_cons]
  grind

theorem digitChar_injective {d d' : Fin 10} (same : digitChar d = digitChar d') : d = d' := by
  have values := congrArg digit? same
  rw [digit?_digitChar, digit?_digitChar] at values
  exact Fin.ext (Option.some.inj values)

end Text

namespace Bsn

variable {digits digits' : Fin 9 → Fin 10} {i j : Fin 9} {s t : String}

/-- The weight of a digit; the last one is subtracted. -/
def weight (i : Fin 9) : ℤ := if i = Fin.last 8 then -1 else 9 - i

theorem not_dvd_weight (i : Fin 9) : ¬ (11 : ℤ) ∣ weight i := by
  revert i
  decide

theorem not_dvd_weight_sub (differ : i ≠ j) : ¬ (11 : ℤ) ∣ weight i - weight j := by
  revert i j
  decide

theorem weighted_eq (digits : Fin 9 → Fin 10) :
    ∑ i : Fin 8, (9 - (i : ℤ)) * (digits i.castSucc : ℤ) - (digits 8 : ℤ) =
      ∑ i, weight i * (digits i : ℤ) := by
  have first (i : Fin 8) : weight i.castSucc = 9 - (i : ℤ) := if_neg i.castSucc_lt_last.ne
  have last : weight (Fin.last 8) = -1 := rfl
  simp only [Fin.sum_univ_castSucc (n := 8), first, last, neg_one_mul, ← sub_eq_add_neg]
  rfl

/-- Digits that differ do not differ by a multiple of 11, whatever the weight. -/
theorem eq_of_dvd_mul_sub {w : ℤ} (unit : ¬ (11 : ℤ) ∣ w) {d d' : Fin 10}
    (divides : (11 : ℤ) ∣ w * ((d : ℤ) - (d' : ℤ))) : d = d' := by
  have prime : Prime (11 : ℤ) := Nat.prime_iff_prime_int.1 (by decide)
  rcases prime.dvd_or_dvd divides with weight | difference
  · exact absurd weight unit
  · obtain ⟨k, difference⟩ := difference
    omega

section Sums

variable (valid : (11 : ℤ) ∣ ∑ i, weight i * (digits i : ℤ))
  (valid' : (11 : ℤ) ∣ ∑ i, weight i * (digits' i : ℤ))

include valid valid'

theorem dvd_sum_sub : (11 : ℤ) ∣ ∑ i, weight i * ((digits i : ℤ) - (digits' i : ℤ)) := by
  simp only [mul_sub, Finset.sum_sub_distrib]
  exact dvd_sub valid valid'

/-- Two valid sums that agree in all digits but one agree in that one too. -/
theorem eq_of_replaced (others : ∀ k, k ≠ i → digits k = digits' k) : digits i = digits' i := by
  have total := dvd_sum_sub valid valid'
  rw [Finset.sum_eq_single i (fun k _ other => by rw [others k other, sub_self, mul_zero])
    (fun absent => absurd (Finset.mem_univ i) absent)] at total
  exact eq_of_dvd_mul_sub (not_dvd_weight i) total

/-- Digits that can change places in a valid sum are the same. -/
theorem eq_of_swapped (differ : i ≠ j) (first : digits' i = digits j)
    (second : digits' j = digits i) (others : ∀ k, k ≠ i → k ≠ j → digits k = digits' k) :
    digits i = digits j := by
  have total := dvd_sum_sub valid valid'
  have factored : weight i * ((digits i : ℤ) - digits j) + weight j * ((digits j : ℤ) - digits i) =
      (weight i - weight j) * ((digits i : ℤ) - digits j) := by ring
  rw [Finset.sum_eq_add i j differ
    (fun k _ other => by rw [others k other.1 other.2, sub_self, mul_zero])
    (fun absent => absurd (Finset.mem_univ i) absent)
    (fun absent => absurd (Finset.mem_univ j) absent), first, second, factored] at total
  exact eq_of_dvd_mul_sub (not_dvd_weight_sub differ) total

end Sums

section Texts

variable {cs cs' : List Char} (written : cs = List.ofFn fun i => Text.digitChar (digits i))
  (written' : cs' = List.ofFn fun i => Text.digitChar (digits' i))

include written

theorem getElem?_digits (k : Fin 9) : cs[(k : ℕ)]? = some (Text.digitChar (digits k)) := by
  rw [written, List.getElem?_ofFn, dif_pos k.isLt]

include written'

theorem eq_of_getElem?_eq {k k' : Fin 9} (same : cs[(k : ℕ)]? = cs'[(k' : ℕ)]?) :
    digits k = digits' k' := by
  rw [getElem?_digits written, getElem?_digits written'] at same
  exact Text.digitChar_injective (Option.some.inj same)

end Texts

/-- A slip turns no citizen-service number into another one. -/
theorem not_slip (number : IsNumber s) (number' : IsNumber t) :
    ¬ Text.Slip (· ≠ ·) (fun _ => True) s.toList t.toList := by
  intro slip
  obtain ⟨digits, written, valid, -⟩ := number
  obtain ⟨digits', written', valid', -⟩ := number'
  rw [weighted_eq] at valid valid'
  have nine : s.toList.length = 9 := by rw [written, List.length_ofFn]
  generalize s.toList = cs at *
  generalize t.toList = cs' at *
  -- The characters of a slip stand at places of the nine; at all others the digits agree.
  cases slip with
  | @replaced before after c c' confusion =>
    have inside : before.length < 9 := by
      rw [List.length_append, List.length_cons] at nine
      omega
    let i : Fin 9 := ⟨before.length, inside⟩
    have same : digits i = digits' i := eq_of_replaced valid valid' fun k other =>
      eq_of_getElem?_eq written written'
        (Text.getElem?_replaced fun place => other (Fin.ext place))
    have old : c = Text.digitChar (digits i) := by simpa [i] using getElem?_digits written i
    have new : c' = Text.digitChar (digits' i) := by simpa [i] using getElem?_digits written' i
    exact confusion (by rw [old, new, same])
  | @swapped before between after c c' confusion _ =>
    have inside : before.length + 1 + between.length < 9 := by
      simp only [List.length_append, List.length_cons] at nine
      omega
    let i : Fin 9 := ⟨before.length, by omega⟩
    let j : Fin 9 := ⟨before.length + 1 + between.length, inside⟩
    have differ : i ≠ j := fun place => by
      have := congrArg Fin.val place
      simp only [i, j] at this
      omega
    have first : digits' i = digits j := eq_of_getElem?_eq written' written (by grind)
    have second : digits' j = digits i := eq_of_getElem?_eq written' written (by grind)
    have same : digits i = digits j :=
      eq_of_swapped valid valid' differ first second fun k other other' =>
        eq_of_getElem?_eq written written'
          (Text.getElem?_swapped (fun place => other (Fin.ext place))
            fun place => other' (Fin.ext place))
    have old : c = Text.digitChar (digits i) := by simpa [i] using getElem?_digits written i
    have new : c' = Text.digitChar (digits' i) := by simpa [i] using getElem?_digits written' i
    exact confusion (by rw [old, new, first, same])

/-- The check accepts exactly the citizen-service numbers. When any one character of an accepted
number is replaced by a different one, or any two different ones change places, the result is
refused. -/
theorem accepts_and_detects (s : String) :
    (violation s = none ↔ IsNumber s) ∧
      (violation s = none → ∀ t : String,
        Text.Slip (· ≠ ·) (fun _ => True) s.toList t.toList → violation t ≠ none) := by
  refine ⟨violation_eq_none_iff, fun accepted t slip accepted' => ?_⟩
  exact not_slip (violation_eq_none_iff.1 accepted) (violation_eq_none_iff.1 accepted') slip

/-- A wrong check digit, and a swap of the second and the eighth digit. -/
theorem accepts_and_detects_of_samples :
    let slip (s t : String) := Text.Slip (· ≠ ·) (fun _ => True) s.toList t.toList
    violation "123456782" = none ∧
      (slip "123456782" "123456787" ∧ violation "123456787" ≠ none) ∧
      slip "123456782" "183456722" ∧ violation "183456722" ≠ none := by
  intro slip
  have accepted : violation "123456782" = none := by decide +kernel
  have replaced : slip "123456782" "123456787" :=
    @Text.Slip.replaced _ _ "12345678".toList [] '2' '7' (by decide)
  have swapped : slip "123456782" "183456722" :=
    @Text.Slip.swapped _ _ ['1'] "34567".toList ['2'] '2' '8' (by decide) fun _ _ => trivial
  obtain ⟨-, detects⟩ := accepts_and_detects "123456782"
  exact ⟨accepted, ⟨replaced, detects accepted _ replaced⟩, swapped, detects accepted _ swapped⟩

end Bsn

end IncomeTax
