import IncomeTax.Identifier.Bsn
import IncomeTax.Proofs.Text.Numeral
import Mathlib.Algebra.BigOperators.Fin

/-!
# What a citizen-service number is

The check of a citizen-service number accepts nine digits whose weighted sum is divisible by 11,
unless the eight weighted digits are all the same. No other text passes, and blanks are not skipped.

## Main definitions

* `Bsn.IsNumber` — the text is a citizen-service number

## Main results

* `Text.mapM_digit?_eq_some_iff` — the texts whose characters are all digits
* `Bsn.violation_eq_none_iff` — the check accepts the citizen-service numbers
-/

namespace IncomeTax

namespace Text

/-- The characters are digits of these values when they are written with them. -/
theorem mapM_digit?_eq_some_iff {cs : List Char} {digits : List ℕ} :
    cs.mapM digit? = some digits ↔ (∀ n ∈ digits, n < 10) ∧ cs = digits.map digitChar := by
  induction cs generalizing digits with
  | nil => cases digits <;> simp
  | cons c rest ih =>
    simp only [List.mapM_cons, Option.pure_def, Option.bind_eq_bind, Option.bind_eq_some_iff, ih,
      digit?_eq_some_iff, Option.some.injEq]
    constructor
    · rintro ⟨n, ⟨small, rfl⟩, more, ⟨smalls, rfl⟩, rfl⟩
      exact ⟨List.forall_mem_cons.2 ⟨small, smalls⟩, rfl⟩
    · rintro ⟨smalls, written⟩
      cases digits with
      | nil => cases written
      | cons n more =>
        rw [List.forall_mem_cons] at smalls
        cases written
        exact ⟨n, ⟨smalls.1, rfl⟩, more, ⟨smalls.2, rfl⟩, rfl⟩

end Text

namespace Bsn

/-- The text has nine digits. Eight of them weighted from 9 down to 2, less the ninth, make a multiple
of 11, and the eight are not all the same. -/
def IsNumber (s : String) : Prop :=
  ∃ digits : Fin 9 → Fin 10, s.toList = List.ofFn (fun i => Text.digitChar (digits i)) ∧
    (11 : ℤ) ∣ ∑ i : Fin 8, (9 - (i : ℤ)) * (digits i.castSucc : ℤ) - (digits 8 : ℤ) ∧
    ∃ i j : Fin 8, digits i.castSucc ≠ digits j.castSucc

theorem digitViolation_ofFn_eq_none_iff {digits : Fin 9 → Fin 10} :
    digitViolation (List.ofFn fun i => (digits i : ℕ)) = none ↔
      (11 : ℤ) ∣ ∑ i : Fin 8, (9 - (i : ℤ)) * (digits i.castSucc : ℤ) - (digits 8 : ℤ) ∧
      ∃ i j : Fin 8, digits i.castSucc ≠ digits j.castSucc := by
  -- The check takes the first eight digits and the ninth apart.
  have listed : List.ofFn (fun i => (digits i : ℕ)) =
      List.ofFn (fun i : Fin 8 => (digits i.castSucc : ℕ)) ++ [(digits 8 : ℕ)] := by
    rw [List.ofFn_succ']
    simp
  have total : checksum (List.ofFn fun i : Fin 8 => (digits i.castSucc : ℕ)) (digits 8) =
      ∑ i : Fin 8, (9 - (i : ℤ)) * (digits i.castSucc : ℤ) - (digits 8 : ℤ) := by
    simp [checksum, List.ofFn_succ, Fin.sum_univ_eight, mul_comm]
  have same : (List.ofFn fun i : Fin 8 => (digits i.castSucc : ℕ)).all
      (some · == some (digits 0 : ℕ)) = true ↔ ∀ i j : Fin 8, digits i.castSucc = digits j.castSucc := by
    simp only [List.all_eq_true, List.forall_mem_ofFn_iff, beq_iff_eq, Option.some.injEq,
      Fin.val_inj]
    constructor
    · intro all i j
      rw [all i, all j]
    · intro all i
      exact all i 0
  have first : (List.ofFn (fun i : Fin 8 => (digits i.castSucc : ℕ)) ++ [(digits 8 : ℕ)]).head? =
      some (digits 0 : ℕ) := by
    simp [List.ofFn_succ]
  have last : (List.ofFn (fun i : Fin 8 => (digits i.castSucc : ℕ)) ++ [(digits 8 : ℕ)]).getD 8 0 =
      digits 8 := by
    simp [List.ofFn_succ]
  have differ : (∃ i j : Fin 8, digits i.castSucc ≠ digits j.castSucc) ↔
      ¬ ∀ i j : Fin 8, digits i.castSucc = digits j.castSucc := by
    simp only [not_forall, Ne]
  rw [listed, digitViolation, if_neg (by simp), List.take_left' (by simp), first, last, differ,
    ← same, ← total, Int.dvd_iff_emod_eq_zero]
  dsimp only
  split_ifs with alike checked
  · exact ⟨nofun, fun valid => absurd alike valid.2⟩
  · exact ⟨nofun, fun valid => absurd valid.1 checked⟩
  · exact ⟨fun _ => ⟨not_not.1 checked, alike⟩, fun _ => rfl⟩

/-- The check accepts the citizen-service numbers and nothing else. -/
theorem violation_eq_none_iff {s : String} : violation s = none ↔ IsNumber s := by
  unfold violation charsViolation
  constructor
  · intro valid
    split at valid
    next => cases valid
    next digits read =>
      obtain ⟨small, written⟩ := Text.mapM_digit?_eq_some_iff.1 read
      have nine : digits.length = 9 := by
        by_contra other
        simp [digitViolation, other] at valid
      -- Nine values below ten are nine digits.
      obtain ⟨digits, rfl⟩ : ∃ f : Fin 9 → Fin 10, digits = List.ofFn fun i => (f i : ℕ) := by
        refine ⟨fun i => ⟨digits[i], small _ (List.getElem_mem _)⟩, ?_⟩
        apply List.ext_getElem
        · exact nine.trans List.length_ofFn.symm
        · intro i _ _
          rw [List.getElem_ofFn]
          rfl
      rw [List.map_ofFn] at written
      exact ⟨digits, written, digitViolation_ofFn_eq_none_iff.1 valid⟩
  · rintro ⟨digits, written, valid⟩
    have read : s.toList.mapM Text.digit? = some (List.ofFn fun i => (digits i : ℕ)) := by
      rw [Text.mapM_digit?_eq_some_iff, List.map_ofFn, List.forall_mem_ofFn_iff]
      exact ⟨fun i => (digits i).isLt, written⟩
    rw [read]
    exact digitViolation_ofFn_eq_none_iff.2 valid

end Bsn

end IncomeTax
