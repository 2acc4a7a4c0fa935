import IncomeTax.Json.Reading
import IncomeTax.Json.Writing
import IncomeTax.Proofs.Text.Numeral

/-!
# Texts and whole numbers read back

Each character of a text is read back from the way it is written, whether as it is, with a backslash
or by its code. A whole number is read back when what comes after it ends it.

## Main definitions

* `Json.Delimits` — what may come after a value

## Main results

* `Json.readText_flatMap` — the written characters of a text are read back
* `Json.readNumber_numeral`, `Json.numberOf_numeral` — so is a whole number of at most 64 bits
-/

namespace IncomeTax.Json

open Text (isDigit numeral)

variable {c : Char} {cs gap rest after : List Char} {n : ℕ}

/-! ### Texts -/

theorem readPieces_of_visible (open_ : c ≠ '"') (escape : c ≠ '\\') (visible : ¬ c.toNat < 0x20)
    (rest : List Char) :
    readPieces (c :: rest) =
      (readPieces rest).map fun (pieces, rest) => (.char c :: pieces, rest) := by
  rw [readPieces.eq_def]
  split
  next empty => cases empty
  next quote => exact absurd (List.cons.inj quote).1 open_
  next code => exact absurd (List.cons.inj code).1 escape
  next letter => exact absurd (List.cons.inj letter).1 escape
  next any =>
    obtain ⟨rfl, rfl⟩ := List.cons.inj any
    simp only [visible, decide_false, beq_eq_false_iff_ne.2 escape, Bool.or_self,
      Bool.false_eq_true, if_false]
    cases readPieces rest <;> rfl

theorem readPieces_of_letter {mark : Char} (named : escaped? mark = some c) (rest : List Char) :
    readPieces ('\\' :: mark :: rest) =
      (readPieces rest).map fun (pieces, rest) => (.char c :: pieces, rest) := by
  -- The letter u would be read as the start of a code.
  have other : mark ≠ 'u' := by
    rintro rfl
    cases named
  rw [readPieces.eq_def]
  split
  next empty => cases empty
  next quote => cases quote
  next code => exact absurd (List.cons.inj (List.cons.inj code).2).1 other
  next letter =>
    obtain ⟨rfl, rfl⟩ := List.cons.inj (List.cons.inj letter).2
    rw [named]
    cases readPieces rest <;> rfl
  next none any =>
    obtain ⟨rfl, rfl⟩ := List.cons.inj any
    exact absurd rfl (none mark rest rfl)

/-- The four hexadecimal digits of a control. -/
theorem readPieces_of_control (control : c.toNat < 0x20) (rest : List Char) :
    readPieces ('\\' :: 'u' :: '0' :: '0' :: Nat.digitChar (c.toNat / 16) ::
        Nat.digitChar (c.toNat % 16) :: rest) =
      (readPieces rest).map fun (pieces, rest) => (.char c :: pieces, rest) := by
  have each : ∀ n : Fin 0x20, Text.hexadecimal?
      ['0', '0', Nat.digitChar (n / 16), Nat.digitChar (n % 16)] = some (n : ℕ) := by decide
  have unit := each ⟨c.toNat, control⟩
  have piece : Piece.ofUnit c.toNat = .char c := by
    rw [Piece.ofUnit, if_neg (by simp; omega), Char.ofNat_toNat]
  rw [readPieces, unit]
  simp only [Option.bind_eq_bind, Option.bind_some, piece]
  cases readPieces rest <;> rfl

/-- A character is read back from the way it stands in a text. -/
theorem readPieces_escapeChar (c : Char) (rest : List Char) :
    readPieces (escapeChar c ++ rest) =
      (readPieces rest).map fun (pieces, rest) => (.char c :: pieces, rest) := by
  unfold escapeChar
  split_ifs with quote backslash newLine return_ tab backspace formFeed control
  · obtain rfl := eq_of_beq quote
    exact readPieces_of_letter rfl rest
  · obtain rfl := eq_of_beq backslash
    exact readPieces_of_letter rfl rest
  · obtain rfl := eq_of_beq newLine
    exact readPieces_of_letter rfl rest
  · obtain rfl := eq_of_beq return_
    exact readPieces_of_letter rfl rest
  · obtain rfl := eq_of_beq tab
    exact readPieces_of_letter rfl rest
  · obtain rfl := eq_of_beq backspace
    exact readPieces_of_letter rfl rest
  · obtain rfl := eq_of_beq formFeed
    exact readPieces_of_letter rfl rest
  · exact readPieces_of_control control rest
  · exact readPieces_of_visible (by simpa using quote) (by simpa using backslash) control rest

theorem readPieces_flatMap (cs after : List Char) :
    readPieces (cs.flatMap escapeChar ++ '"' :: after) = some (cs.map .char, after) := by
  induction cs with
  | nil => rfl
  | cons c cs ih =>
    rw [List.flatMap_cons, List.append_assoc, readPieces_escapeChar, ih]
    rfl

theorem joinPieces_map (cs : List Char) : joinPieces (cs.map .char) = some cs := by
  induction cs with
  | nil => rfl
  | cons c cs ih =>
    rw [List.map_cons, joinPieces, ih]
    rfl

/-- A text is read back after its opening quote. -/
theorem readText_flatMap (s : String) (after : List Char) :
    readText (s.toList.flatMap escapeChar ++ '"' :: after) = some (some s, after) := by
  rw [readText, readPieces_flatMap]
  simp [joinPieces_map]

/-! ### What comes after a value -/

/-- Whether the character is a blank or a mark that ends a value. -/
def isEnd (c : Char) : Bool := isSpace c || c == ',' || c == ']' || c == '}'

/-- What may come after a value: nothing, or a blank or mark that ends it. -/
def Delimits (after : List Char) : Prop := ∀ c ∈ after.head?, isEnd c = true

theorem Delimits.nil : Delimits [] := by
  intro c member
  cases member

theorem Delimits.cons (ends : isEnd c = true) (rest : List Char) : Delimits (c :: rest) := by
  rintro _ ⟨⟩
  exact ends

/-- Blanks may always come after a value. -/
theorem Delimits.append (blank : ∀ c ∈ gap, isSpace c = true) (delimits : Delimits after) :
    Delimits (gap ++ after) := by
  cases gap with
  | nil => exact delimits
  | cons c more => exact .cons (by simp [isEnd, blank c List.mem_cons_self]) _

theorem Delimits.ne (delimits : Delimits (c :: rest)) {mark : Char} (other : isEnd mark = false) :
    c ≠ mark := by
  rintro rfl
  exact absurd (delimits c rfl) (by simp [other])

theorem isDigit_of_isEnd (ends : isEnd c = true) : isDigit c = false := by
  simp only [isEnd, isSpace, Bool.or_eq_true, beq_iff_eq, or_assoc] at ends
  rcases ends with rfl | rfl | rfl | rfl | rfl | rfl | rfl <;> rfl

theorem Delimits.takeWhile_isDigit (delimits : Delimits after) :
    after.takeWhile isDigit = [] := by
  cases after with
  | nil => rfl
  | cons c rest => rw [List.takeWhile_cons_of_neg (by simp [isDigit_of_isEnd (delimits c rfl)])]

theorem Delimits.readFraction (delimits : Delimits after) :
    readFraction after = some (none, after) := by
  unfold Json.readFraction
  split
  next rest => exact absurd rfl (delimits.ne (by decide))
  next => rfl

theorem Delimits.readPower (delimits : Delimits after) : readPower after = some (none, after) := by
  cases after with
  | nil => rfl
  | cons c rest =>
    have small : c ≠ 'e' := delimits.ne (by decide)
    have capital : c ≠ 'E' := delimits.ne (by decide)
    simp [Json.readPower, small, capital]

/-! ### Numbers -/

theorem isSpace_of_isDigit (digit : isDigit c = true) : isSpace c = false := by
  have space : c ≠ ' ' := Text.ne_of_isDigit digit rfl
  have tab : c ≠ '\t' := Text.ne_of_isDigit digit rfl
  have lineFeed : c ≠ '\n' := Text.ne_of_isDigit digit rfl
  have carriageReturn : c ≠ '\r' := Text.ne_of_isDigit digit rfl
  simp [isSpace, space, tab, lineFeed, carriageReturn]

/-- A run of digits is taken as a whole, while it fits. -/
theorem absorbDigits_eq (run : ∀ c ∈ cs, isDigit c = true)
    (fits : Nat.ofDigitChars 10 cs n ≤ greatestWhole) :
    absorbDigits n cs = (Nat.ofDigitChars 10 cs n, cs.length) := by
  induction cs generalizing n with
  | nil => rfl
  | cons c more ih =>
    rw [List.forall_mem_cons] at run
    rw [Nat.ofDigitChars_cons] at fits ⊢
      -- The value only grows, so it fits after each digit when it fits in the end.
    have within := (Text.le_ofDigitChars more _).trans fits
    rw [absorbDigits, Text.digit?_of_isDigit run.1]
    simp only [if_pos within, ih run.2 fits, List.length_cons]

theorem absorbDigits_numeral (fits : n ≤ greatestWhole) :
    absorbDigits 0 (numeral n) = (n, (numeral n).length) := by
  have value : Nat.ofDigitChars 10 (numeral n) 0 = n := Nat.ofDigitChars_ten_toDigits
  rw [absorbDigits_eq (fun _ => Text.isDigit_of_mem_numeral) (value.trans_le fits), value]

theorem numberOf_numeral (fits : n ≤ greatestWhole) :
    numberOf false (numeral n) none none = ofNat n := by
  simp [numberOf, absorbDigits_numeral fits]

theorem numberOf_neg_numeral (positive : 0 < n) (fits : n ≤ 2 ^ 63) :
    numberOf true (numeral n) none none = ofInt (-(n : ℤ)) := by
  have within : n ≤ greatestWhole := fits.trans (by decide)
  have nonzero : n ≠ 0 := by omega
  have small : n ≤ Nat.pow 2 63 := fits
  simp only [numberOf, absorbDigits_numeral within]
  simp [nonzero, small]

/-- A numeral is read as a number up to what comes after it. -/
theorem readNumber_numeral (negative : Bool) (n : ℕ) (delimits : Delimits after) :
    readNumber negative (numeral n ++ after) =
      some (numberOf negative (numeral n) none none, after) := by
  have run : ∀ c ∈ numeral n, isDigit c = true := fun _ => Text.isDigit_of_mem_numeral
  have ends := delimits.takeWhile_isDigit
  have nonempty : (numeral n).isEmpty = false := List.isEmpty_eq_false_iff.2 Nat.toDigits_ne_nil
  -- A leading zero is refused, unless it is all there is.
  have leading : ((numeral n).head? == some '0' && (numeral n).length != 1) = false := by
    rcases Nat.eq_zero_or_pos n with rfl | positive
    · rfl
    · simp [Text.head?_numeral_ne positive]
  rw [readNumber, spanDigits, Text.takeWhile_isDigit_append run ends,
    Text.dropWhile_isDigit_append run ends]
  simp [nonempty, leading, delimits.readFraction, delimits.readPower]

end IncomeTax.Json
