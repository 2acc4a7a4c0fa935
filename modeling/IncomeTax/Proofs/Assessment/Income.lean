import IncomeTax.Assessment.Basic
import IncomeTax.Proofs.Decimal.Exact
import IncomeTax.Proofs.Declaration.Validity
import IncomeTax.Proofs.OrderedMap

/-!
# Gross income by category

Income is added up category by category, and the categories are added up to the total income. As
long as the total is in range nothing is rounded: the total of the categories seen so far is always
the total of the records read so far.

## Main definitions

* `IncomeTotals` — what the map of categories says of the records read

## Main results

* `exists_incomeByCategory?` — income by category exists and adds up to the income
-/

namespace IncomeTax

open Decimal (Within)

/-- The categories are those that occur, each with the total of its records, and the totals add up to
the gross amounts. -/
structure IncomeTotals (income : List IncomeRecord)
    (totals : OrderedMap IncomeCategory Decimal) : Prop where
  keys : ∀ category, category ∈ totals.keys ↔ ∃ record ∈ income, record.category = category
  each : ∀ category, ((totals.find? category).getD Decimal.zero).toRat =
    ((income.filter (·.category = category)).map (·.grossAmount.toRat)).sum
  sum : (totals.values.map Decimal.toRat).sum = (income.map (·.grossAmount.toRat)).sum
  nonneg : ∀ total ∈ totals.values, 0 ≤ total.toRat
  mem_grid : ∀ total ∈ totals.values, total.toRat ∈ Decimal.grid 2

variable {income : List IncomeRecord} {totals : OrderedMap IncomeCategory Decimal}
  {record : IncomeRecord}

theorem IncomeTotals.empty : IncomeTotals [] OrderedMap.empty where
  keys category := by simp [OrderedMap.keys, OrderedMap.empty]
  each category := by simp
  sum := rfl
  nonneg _ member := nomatch member
  mem_grid _ member := nomatch member

/-- The total of a category so far is zero or listed. -/
theorem IncomeTotals.within (read : IncomeTotals income totals) (category : IncomeCategory) :
    Within 2 (income.map (·.grossAmount.toRat)).sum
      ((totals.find? category).getD Decimal.zero).toRat := by
  have nonneg : ∀ q ∈ totals.values.map Decimal.toRat, 0 ≤ q := List.forall_mem_map.2 read.nonneg
  rw [← read.sum]
  cases found : totals.find? category with
  | none =>
    rw [Option.getD_none, Decimal.toRat_zero]
    exact .zero (List.sum_nonneg nonneg)
  | some total =>
    have member := OrderedMap.mem_values_of_find? found
    exact ⟨read.nonneg total member, List.single_le_sum nonneg _ (List.mem_map_of_mem member),
      read.mem_grid total member⟩

/-- The totals after one more record, with a larger total for its category. -/
theorem IncomeTotals.insert (read : IncomeTotals income totals) {total : Decimal}
    (gross : IsMoney record.grossAmount.toRat)
    (value : total.toRat =
      ((totals.find? record.category).getD Decimal.zero).toRat + record.grossAmount.toRat) :
    IncomeTotals (income ++ [record]) (totals.insert record.category total) := by
  have before := read.within record.category
  refine
    { keys := fun category => ?_
      each := fun category => ?_
      sum := ?_
      nonneg := fun v member => ?_
      mem_grid := fun v member => ?_ }
  · rw [OrderedMap.mem_keys_insert, read.keys]
    simp [or_and_right, exists_or, or_comm, eq_comm]
  · rw [List.filter_append, List.map_append, List.sum_append, ← read.each]
    by_cases same : record.category = category
    · subst same
      simp [value]
    · rw [OrderedMap.find?_insert_of_ne _ _ same]
      simp [same]
  · have replaced : (totals.find? record.category).elim 0 Decimal.toRat =
        ((totals.find? record.category).getD Decimal.zero).toRat := by
      cases totals.find? record.category <;> simp
    have change := OrderedMap.sum_values_insert totals record.category total Decimal.toRat
    rw [replaced, value, read.sum] at change
    rw [List.map_append, List.sum_append, List.map_singleton, List.sum_singleton]
    linarith
  · rcases OrderedMap.mem_values_insert member with rfl | member
    · exact value ▸ add_nonneg before.nonneg gross.nonneg
    · exact read.nonneg v member
  · rcases OrderedMap.mem_values_insert member with rfl | member
    · exact value ▸ add_mem before.mem_grid gross.mem_grid
    · exact read.mem_grid v member

/-- The totals of categories do not depend on the order of the records. -/
theorem IncomeTotals.map_find?_eq_of_perm {income' : List IncomeRecord}
    {totals' : OrderedMap IncomeCategory Decimal} (read : IncomeTotals income totals)
    (read' : IncomeTotals income' totals') (same : income.Perm income')
    (category : IncomeCategory) :
    (totals.find? category).map Decimal.toRat = (totals'.find? category).map Decimal.toRat := by
  have listed : category ∈ totals.keys ↔ category ∈ totals'.keys := by
    rw [read.keys, read'.keys]
    simp only [same.mem_iff]
  have value : ((totals.find? category).getD Decimal.zero).toRat =
      ((totals'.find? category).getD Decimal.zero).toRat := by
    rw [read.each, read'.each, ((same.filter _).map _).sum_eq]
  rw [OrderedMap.mem_keys_iff, OrderedMap.mem_keys_iff] at listed
  cases found : totals.find? category <;> cases found' : totals'.find? category <;>
    simp_all

/-- One more record adds its amount to its category, without rounding. -/
theorem IncomeTotals.concat (read : IncomeTotals income totals)
    (gross : IsMoney record.grossAmount.toRat)
    (small : ((income ++ [record]).map (·.grossAmount.toRat)).sum * 10 ^ 2 < 2 ^ 96) :
    ∃ totals', addIncome? totals record = some totals' ∧
      IncomeTotals (income ++ [record]) totals' := by
  have before := read.within record.category
  rw [List.map_append, List.sum_append, List.map_singleton, List.sum_singleton] at small
  -- A category has no more than all records together, so its new total is in range as well.
  have fits : Decimal.Fits 2
      (((totals.find? record.category).getD Decimal.zero).toRat + record.grossAmount.toRat) :=
    .of_nonneg_le (add_mem before.mem_grid gross.mem_grid) (add_nonneg before.nonneg gross.nonneg)
      (add_le_add_left before.le _) small
  obtain ⟨total, added, value⟩ :=
    Option.map_eq_some_iff.1 (Decimal.map_toRat_add? (by norm_num) fits)
  refine ⟨totals.insert record.category total, ?_, read.insert gross value⟩
  rw [addIncome?, added]
  rfl

/-- Income by category exists when the total is in range, and adds up to the income. -/
theorem exists_incomeByCategory? (gross : ∀ record ∈ income, IsMoney record.grossAmount.toRat)
    (small : (income.map (·.grossAmount.toRat)).sum * 10 ^ 2 < 2 ^ 96) :
    ∃ totals, incomeByCategory? income = some totals ∧ IncomeTotals income totals := by
  -- Records are read from the front, so the induction adds one at the end.
  induction income using List.reverseRecOn with
  | nil => exact ⟨OrderedMap.empty, rfl, .empty⟩
  | append_singleton earlier record ih =>
    rw [List.forall_mem_append, List.forall_mem_singleton] at gross
    have smaller : (earlier.map (·.grossAmount.toRat)).sum * 10 ^ 2 < 2 ^ 96 := by
      rw [List.map_append, List.sum_append, List.map_singleton, List.sum_singleton] at small
      linarith [gross.2.nonneg]
    obtain ⟨totals, found, read⟩ := ih gross.1 smaller
    obtain ⟨totals', added, read⟩ := read.concat gross.2 small
    refine ⟨totals', ?_, read⟩
    rw [incomeByCategory?, List.foldlM_append, ← incomeByCategory?, found]
    simpa using added

end IncomeTax
