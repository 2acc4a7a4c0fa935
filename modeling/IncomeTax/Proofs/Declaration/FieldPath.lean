import IncomeTax.Declaration.Validation
import IncomeTax.Proofs.Text.Numeral
import Mathlib.Data.List.Infix

/-!
# Which item a field belongs to

The path of a field starts with the list and the index of its item. The bracket ends the name of the
list, and the numeral of the index goes on up to the closing one, so a path leads to one item only.

## Main definitions

* `ValidationError.isAt` — the error is about a field of the item

## Main results

* `Validation.itemPath_append_injective` — a path has one list and one index
* `ValidationError.isAt_iff` — so an error at a path is at no other item
-/

namespace IncomeTax

open Validation (itemPath)

/-- The error is about some field of the item at an index of a list. -/
def ValidationError.isAt (list : String) (index : ℕ) (e : ValidationError) : Bool :=
  (itemPath list index ++ ".").toList.isPrefixOf e.field.toList

variable {list list' : String} {i j : ℕ} {part part' : List Char}

theorem Text.numeral_injective : Function.Injective numeral := by
  intro n n' same
  have value := congrArg (Nat.ofDigitChars 10 · 0) same
  simpa [numeral, Nat.ofDigitChars_ten_toDigits] using value

namespace Validation

theorem toList_itemPath (list : String) (index : ℕ) :
    (itemPath list index).toList = list.toList ++ '[' :: (Text.numeral index ++ [']']) := by
  simp [itemPath, Text.numeral]

/-- The characters before the first bracket, when there is none among the first ones. -/
theorem takeWhile_ne_bracket {name rest : List Char} (plain : '[' ∉ name) :
    (name ++ '[' :: rest).takeWhile (· ≠ '[') = name := by
  have none_inside : ∀ c ∈ name, decide (c ≠ '[') = true := fun c member =>
    decide_eq_true fun same => plain (same ▸ member)
  rw [List.takeWhile_append_of_pos none_inside]
  simp

/-- A path has one list and one index, whatever part of the item it leads to. -/
theorem itemPath_append_injective (plain : '[' ∉ list.toList) (plain' : '[' ∉ list'.toList)
    (same : (itemPath list i).toList ++ part = (itemPath list' j).toList ++ part') :
    list = list' ∧ i = j := by
  simp only [toList_itemPath, List.append_assoc, List.cons_append, List.nil_append] at same
  have names := congrArg (List.takeWhile (· ≠ '[')) same
  rw [takeWhile_ne_bracket plain, takeWhile_ne_bracket plain'] at names
  rw [names] at same
  have indices := congrArg (List.takeWhile Text.isDigit)
    (List.cons.inj (List.append_cancel_left same)).2
  -- The closing bracket is no digit.
  rw [Text.takeWhile_isDigit_append (fun _ => Text.isDigit_of_mem_numeral) rfl,
    Text.takeWhile_isDigit_append (fun _ => Text.isDigit_of_mem_numeral) rfl] at indices
  exact ⟨String.toList_inj.1 names, Text.numeral_injective indices⟩

end Validation

/-- An error at a part of an item is at this item and at no other one. -/
theorem ValidationError.isAt_iff {e : ValidationError} {part : String}
    (plain : '[' ∉ list.toList) (plain' : '[' ∉ list'.toList)
    (field : e.field = itemPath list i ++ "." ++ part) :
    e.isAt list' j = true ↔ list = list' ∧ i = j := by
  rw [isAt, List.isPrefixOf_iff_prefix, field]
  constructor
  · rintro ⟨rest, same⟩
    simp only [String.toList_append, List.append_assoc] at same
    exact Validation.itemPath_append_injective plain plain' same.symm
  · rintro ⟨rfl, rfl⟩
    exact ⟨part.toList, by simp only [String.toList_append, List.append_assoc]⟩

end IncomeTax
