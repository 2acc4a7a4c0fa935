import IncomeTax.Decimal.Text
import IncomeTax.Proofs.Decimal.Value
import IncomeTax.Proofs.Text.Numeral

/-!
# Amounts read back

An amount that is written in plain notation is read back with its exact scale. Only the sign of a
negative zero is lost, which no comparison sees.

## Main definitions

* `Decimal.unsignedZero` — the amount, a zero without its sign

## Main results

* `Decimal.ofText?_toText` — what is read back
-/

namespace IncomeTax.Decimal

open Text (isDigit numeral padded)

/-- The amount, but for the sign of a zero. -/
def unsignedZero (a : Decimal) : Decimal := { a with negative := a.negative && a.coefficient != 0 }

variable {a : Decimal} {negative pointSeen digitSeen : Bool} {coefficient scale : ℕ}
  {digits rest : List Char}

theorem units_unsignedZero (a : Decimal) : a.unsignedZero.units = a.units := by
  by_cases empty : a.coefficient = 0 <;> simp [units, unsignedZero, empty]

theorem unsignedZero_eq_self (signed : a.negative = true → a.coefficient ≠ 0) :
    a.unsignedZero = a := by
  obtain ⟨negative, coefficient, scale, _, _⟩ := a
  cases negative with
  | false => rfl
  | true => simpa [unsignedZero] using signed rfl

theorem ofParts?_eq_unsignedZero (a : Decimal) :
    ofParts? a.negative a.coefficient a.scale = some a.unsignedZero :=
  dif_pos ⟨a.coefficient_lt, a.scale_le⟩

/-! ### Runs of digits -/

/-- A run of digits is read into the coefficient, while it fits. After the point each of them is a
decimal. -/
theorem readDigits_append (run : ∀ c ∈ digits, isDigit c = true)
    (fits : Nat.ofDigitChars 10 digits coefficient < coefficientLimit)
    (decimals : pointSeen = true → scale + digits.length ≤ maxScale) :
    readDigits negative pointSeen digitSeen coefficient scale (digits ++ rest) =
      readDigits negative pointSeen (digitSeen || !digits.isEmpty)
        (Nat.ofDigitChars 10 digits coefficient)
        (if pointSeen then scale + digits.length else scale) rest := by
  induction digits generalizing digitSeen coefficient scale with
  | nil => simp
  | cons c more ih =>
    rw [List.forall_mem_cons] at run
    rw [Nat.ofDigitChars_cons] at fits ⊢
    rw [List.length_cons] at decimals
    -- The coefficient only grows, so it fits after each digit when it fits in the end.
    have within := (Text.le_ofDigitChars more _).trans_lt fits
    have room : (pointSeen && scale == maxScale) = false := by
      rw [Bool.and_eq_false_imp, beq_eq_false_iff_ne]
      intro point
      have short := decimals point
      omega
    rw [List.cons_append, readDigits, Text.digit?_of_isDigit run.1]
    simp only [room, Bool.false_eq_true, if_false]
    rw [if_pos within]
    have later : pointSeen = true →
        (if pointSeen then scale + 1 else scale) + more.length ≤ maxScale := fun point => by
      have short := decimals point
      rw [if_pos point]
      omega
    refine (ih run.2 fits later).trans ?_
    cases pointSeen <;> simp [Nat.add_assoc, Nat.add_comm 1]

theorem readDigits_nil (a : Decimal) (pointSeen : Bool) :
    readDigits a.negative pointSeen true a.coefficient a.scale [] = .ok a.unsignedZero := by
  rw [readDigits, ofParts?_eq_unsignedZero]
  rfl

/-- After the point, the decimals make up the coefficient and the scale. -/
theorem readDigits_decimals (a : Decimal) :
    readDigits a.negative true true (a.coefficient / 10 ^ a.scale) 0
      (padded a.scale (a.coefficient % 10 ^ a.scale)) = .ok a.unsignedZero := by
  have all : Nat.ofDigitChars 10 (padded a.scale (a.coefficient % 10 ^ a.scale))
      (a.coefficient / 10 ^ a.scale) = a.coefficient := by
    rw [Text.ofDigitChars_padded, Nat.mod_mod, Nat.div_add_mod']
  have short : 0 + (padded a.scale (a.coefficient % 10 ^ a.scale)).length ≤ maxScale := by
    rw [Nat.zero_add, Text.length_padded]
    exact a.scale_le
  rw [← List.append_nil (padded _ _), readDigits_append (fun _ => Text.isDigit_of_mem_padded)
    (all.trans_lt a.coefficient_lt) fun _ => short, all, Text.length_padded, Nat.zero_add]
  exact a.readDigits_nil true

/-- The whole part, and after a point the decimals if there are any. -/
theorem readDigits_toChars (a : Decimal) :
    readDigits a.negative false false 0 0 (numeral (a.coefficient / 10 ^ a.scale) ++
      if a.scale = 0 then [] else '.' :: padded a.scale (a.coefficient % 10 ^ a.scale)) =
        .ok a.unsignedZero := by
  have whole : Nat.ofDigitChars 10 (numeral (a.coefficient / 10 ^ a.scale)) 0 =
      a.coefficient / 10 ^ a.scale := Nat.ofDigitChars_ten_toDigits
  have fits : Nat.ofDigitChars 10 (numeral (a.coefficient / 10 ^ a.scale)) 0 < coefficientLimit :=
    whole.trans_lt ((Nat.div_le_self _ _).trans_lt a.coefficient_lt)
  have nonempty : (numeral (a.coefficient / 10 ^ a.scale)).isEmpty = false :=
    List.isEmpty_eq_false_iff.2 Nat.toDigits_ne_nil
  have point : false = true → 0 + (numeral (a.coefficient / 10 ^ a.scale)).length ≤ maxScale :=
    nofun
  rw [readDigits_append (fun _ => Text.isDigit_of_mem_numeral) fits point, whole, nonempty]
  by_cases none : a.scale = 0
  · have ended := a.readDigits_nil false
    simp only [none] at ended ⊢
    simpa using ended
  · rw [if_neg none]
    exact a.readDigits_decimals

theorem ofPlain_toChars (a : Decimal) : ofPlain a.toChars = .ok a.unsignedZero := by
  have digits := a.readDigits_toChars
  unfold toChars
  simp only [Nat.pow_eq, List.append_assoc]
  cases sign : a.negative with
  | true =>
    rw [sign] at digits
    exact digits
  | false =>
    rw [sign] at digits
    -- The first character is a digit, and no sign.
    cases written : numeral (a.coefficient / 10 ^ a.scale) with
    | nil => exact absurd written Nat.toDigits_ne_nil
    | cons c cs =>
      have digit : isDigit c = true := Text.isDigit_of_mem_numeral (written ▸ List.mem_cons_self)
      rw [written] at digits
      simp only [Bool.false_eq_true, if_false, List.nil_append]
      rw [List.cons_append] at digits ⊢
      unfold ofPlain
      split
      next empty => cases empty
      next minus => exact absurd (List.cons.inj minus).1 (Text.ne_of_isDigit digit rfl)
      next plus => exact absurd (List.cons.inj plus).1 (Text.ne_of_isDigit digit rfl)
      next => exact digits

/-- An amount is read back from its text, with its exact scale. -/
theorem ofText?_toText (a : Decimal) : ofText? a.toText = some a.unsignedZero := by
  rw [ofText?, ofText, toText, String.toList_ofList, ofChars, ofPlain_toChars]
  rfl

end IncomeTax.Decimal
