import IncomeTax.Proofs.Filing.Change
import IncomeTax.Proofs.RateTable.Moderate
import Mathlib.Data.List.Induction

/-!
# Runs of the service

A run is a list of operations, each performed on the state its predecessors left, whatever they
answered. A moment of the run is a prefix of the list. What holds at the start and survives every
change holds at every moment.

## Main definitions

* `FilingService.after` — the state after a list of operations
* `FilingService.ServedBefore` — a table was served at an earlier moment of a run
-/

namespace IncomeTax.FilingService

variable {s : FilingService} {ops : List FilingOperation}

/-- The state after a list of operations. -/
def after (s : FilingService) (ops : List FilingOperation) : FilingService :=
  ops.foldl (fun s op => (s.perform op).1) s

@[simp] theorem after_nil : s.after [] = s := rfl

theorem after_append (earlier later : List FilingOperation) :
    s.after (earlier ++ later) = (s.after earlier).after later :=
  List.foldl_append

theorem after_concat (op : FilingOperation) :
    s.after (ops ++ [op]) = ((s.after ops).perform op).1 := by
  rw [after_append]
  rfl

/-- What survives every change survives a run. -/
theorem after_induction {motive : FilingService → Prop} (start : motive s)
    (change : ∀ s s', motive s → Change s s' → motive s') : motive (s.after ops) := by
  induction ops using List.reverseRecOn with
  | nil => exact start
  | append_singleton ops op ih =>
    rw [after_concat]
    exact change _ _ ih (perform_change _ op)

/-- A relation of states that changes respect relates the state at a moment to every later one. -/
theorem after_rel_of_prefix (rel : FilingService → FilingService → Prop) (refl : ∀ s, rel s s)
    (change : ∀ s s' s'', rel s s' → Change s' s'' → rel s s'')
    {earlier : List FilingOperation} (moment : earlier <+: ops) :
    rel (s.after earlier) (s.after ops) := by
  obtain ⟨later, rfl⟩ := moment
  rw [after_append]
  exact after_induction (refl _) (change _)

/-- A table was served for a key at a moment before the end of a run. -/
def ServedBefore (s : FilingService) (ops : List FilingOperation) (key : RateTableKey)
    (table : RateTable) : Prop :=
  ∃ earlier op later, ops = earlier ++ op :: later ∧
    (s.after earlier).tables.lookup key = .ok table

theorem ServedBefore.concat {key : RateTableKey} {table : RateTable}
    (served : s.ServedBefore ops key table) (op : FilingOperation) :
    s.ServedBefore (ops ++ [op]) key table := by
  obtain ⟨earlier, first, later, rfl, found⟩ := served
  exact ⟨earlier, first, later ++ [op], by simp, found⟩

theorem servedBefore_concat_of_lookup {key : RateTableKey} {table : RateTable}
    (found : (s.after ops).tables.lookup key = .ok table) (op : FilingOperation) :
    s.ServedBefore (ops ++ [op]) key table :=
  ⟨ops, op, [], rfl, found⟩

/-- A run in which a validated declaration is edited, approved and amended, while its table is first
published and then withdrawn. -/
def sampleRun : List FilingOperation :=
  [.reload [.sample2024] [] .strict, .create .sample2024, .validate ⟨1⟩,
    .edit ⟨1⟩ (set NewDeclaration.sample2024.content), .validate ⟨1⟩, .submit ⟨1⟩,
    .record ⟨1⟩ .beginProcessing, .record ⟨1⟩ .approve, .reload [] [] .strict, .amend ⟨1⟩]

end IncomeTax.FilingService
