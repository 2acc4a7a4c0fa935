import IncomeTax.Csv.Table
import IncomeTax.Proofs.Csv.Cell
import Mathlib.Data.List.Forall2

/-!
# One file, read in two layouts

Two layouts can have the same columns and make different rows of them. Where every column of the
first layout reads a cell, that of the second one does, and what they make of it is related, the
rows of a file are related one by one.

## Main definitions

* `Csv.Column.Follows`, `Csv.Layout.Follows` — columns and layouts whose rows stay related

## Main results

* `Csv.Layout.Follows.read` — the rows of a file in both layouts
-/

namespace IncomeTax.Csv

variable {ρ σ : Type} {R : ρ → σ → Prop}

/-- The second column stands where the first one does and reads what it reads, and related rows stay
related. Cells are trimmed before they are read. -/
structure Column.Follows (R : ρ → σ → Prop) (c : Column ρ) (c' : Column σ) : Prop where
  name : c.name = c'.name
  mayBeUnnamed : c.mayBeUnnamed = c'.mayBeUnnamed
  mayBeCutOff : c.mayBeCutOff = c'.mayBeCutOff
  read : ∀ column cell fill, c.read column (Text.trim cell) = .ok fill →
    ∃ fill', c'.read column (Text.trim cell) = .ok fill' ∧
      ∀ row row', R row row' → R (fill row) (fill' row')

/-- The columns of the second layout follow those of the first, from related blank rows on. -/
structure Layout.Follows (R : ρ → σ → Prop) (layout : Layout ρ) (layout' : Layout σ) : Prop where
  columns : List.Forall₂ (Column.Follows R) layout.columns layout'.columns
  blank : R layout.blank layout'.blank

/-- Where each single outcome has a related one, the lists of all outcomes are related. -/
theorem exists_mapM_of_mapM {ε ι : Type} {f : ι → Except ε ρ} {g : ι → Except ε σ}
    (each : ∀ i y, f i = .ok y → ∃ y', g i = .ok y' ∧ R y y') {items : List ι} {ys : List ρ}
    (read : items.mapM f = .ok ys) : ∃ ys', items.mapM g = .ok ys' ∧ List.Forall₂ R ys ys' := by
  induction items generalizing ys with
  | nil =>
    cases read
    exact ⟨[], rfl, .nil⟩
  | cons i rest ih =>
    rw [List.mapM_cons] at read ⊢
    cases first : f i with
    | error e =>
      rw [first] at read
      cases read
    | ok y =>
      cases others : rest.mapM f with
      | error e =>
        rw [first, others] at read
        cases read
      | ok ys =>
        rw [first, others] at read
        cases read
        obtain ⟨y', first', related⟩ := each i y first
        obtain ⟨ys', others', all⟩ := ih others
        rw [first', others']
        exact ⟨y' :: ys', rfl, .cons related all⟩

/-- All texts are trimmed. -/
def Trimmed (cells : List String) : Prop := ∀ cell ∈ cells, ∃ raw, cell = Text.trim raw

theorem trimmed_of_cellTexts {column : ℕ} {bytes : List (List UInt8)} {cells : List String}
    (read : cellTexts column bytes = .ok cells) : Trimmed cells := by
  induction bytes generalizing column cells with
  | nil =>
    cases read
    exact nofun
  | cons cell rest ih =>
    unfold cellTexts at read
    split at read
    · cases read
    next s _ =>
      cases more : cellTexts (column + 1) rest with
      | error e =>
        rw [more] at read
        cases read
      | ok texts =>
        rw [more] at read
        cases read
        exact List.forall_mem_cons.2 ⟨⟨s, rfl⟩, ih more⟩

namespace Layout.Follows

variable {layout : Layout ρ} {layout' : Layout σ} {row : ρ} {row' : σ} {seen seen' : List String}
  {column : ℕ} {cells names : List String}

/-- Columns are found by the same names. -/
theorem find? (follows : layout.Follows R layout') (p : String → Bool → Bool) :
    layout.columns.find? (fun c => p c.name c.mayBeUnnamed) = none ∧
      layout'.columns.find? (fun c => p c.name c.mayBeUnnamed) = none ∨
    ∃ c c', layout.columns.find? (fun c => p c.name c.mayBeUnnamed) = some c ∧
      layout'.columns.find? (fun c => p c.name c.mayBeUnnamed) = some c' ∧ c.Follows R c' := by
  have columns := follows.columns
  generalize layout.columns = cs at columns ⊢
  generalize layout'.columns = cs' at columns ⊢
  induction columns with
  | nil => exact .inl ⟨rfl, rfl⟩
  | cons first _ ih =>
    rw [List.find?_cons, List.find?_cons, ← first.name, ← first.mayBeUnnamed]
    split
    · exact .inr ⟨_, _, rfl, rfl, first⟩
    · exact ih

/-- The second layout fills its row along with the first, from named cells. -/
theorem fillNamed (follows : layout.Follows R layout') {pairs : List (String × String)}
    (trimmed : Trimmed (pairs.map Prod.snd)) (related : R row row') {filled : ρ}
    (read : layout.fillNamed seen column row pairs = .ok (filled, seen')) :
    ∃ filled', layout'.fillNamed seen column row' pairs = .ok (filled', seen') ∧
      R filled filled' := by
  induction pairs generalizing seen column row row' with
  | nil =>
    cases read
    exact ⟨row', rfl, related⟩
  | cons pair rest ih =>
    obtain ⟨name, cell⟩ := pair
    rw [List.map_cons] at trimmed
    obtain ⟨⟨raw, rfl⟩, others⟩ := List.forall_mem_cons.1 trimmed
    rw [Layout.fillNamed] at read ⊢
    rcases follows.find? (fun known _ => known == name) with
      ⟨none, none'⟩ | ⟨c, c', found, found', column_follows⟩
    · -- A name that no column has is passed over in both layouts.
      rw [none] at read
      rw [none']
      exact ih others related read
    · rw [found] at read
      rw [found']
      simp only at read ⊢
      -- Both have seen the same names, so a name is new to both or repeated in both.
      split at read
      · cases read
      next new =>
        rw [if_neg new]
        split at read
        · cases read
        next fill filling =>
          obtain ⟨fill', filling', step⟩ := column_follows.read _ _ _ filling
          rw [filling']
          exact ih others (step _ _ related) read

/-- The second layout reads the rows with named cells that the first one reads. -/
theorem readNamed (follows : layout.Follows R layout') (trimmed : Trimmed cells)
    (read : layout.readNamed names cells = .ok row) :
    ∃ row', layout'.readNamed names cells = .ok row' ∧ R row row' := by
  have trimmed : Trimmed ((names.zip cells).map Prod.snd) := fun cell member => by
    obtain ⟨pair, paired, rfl⟩ := List.mem_map.1 member
    exact trimmed _ (List.of_mem_zip paired).2
  unfold Layout.readNamed at read ⊢
  cases filling : layout.fillNamed [] 0 layout.blank (names.zip cells) with
  | error e =>
    rw [filling] at read
    cases read
  | ok filled =>
    obtain ⟨filled, seen⟩ := filled
    obtain ⟨filled', filling', related⟩ := follows.fillNamed trimmed follows.blank filling
    rw [filling] at read
    rw [filling']
    simp only [bind, Except.bind] at read ⊢
    -- A row that is read lacks no column, so the second layout lacks none either.
    rcases follows.find? (fun name mayBeUnnamed => !mayBeUnnamed && !seen.contains name) with
      ⟨none, none'⟩ | ⟨c, c', found, -⟩
    · rw [none] at read
      rw [none']
      cases read
      exact ⟨filled', rfl, related⟩
    · rw [found] at read
      cases read

/-- The second layout fills its row along with the first, from cells found by their place. -/
theorem fillPlaced {columns : List (Column ρ)} {columns' : List (Column σ)}
    (same : List.Forall₂ (Column.Follows R) columns columns') (trimmed : Trimmed cells)
    (related : R row row') {filled : ρ}
    (read : layout.fillPlaced column row columns cells = .ok filled) :
    ∃ filled', layout'.fillPlaced column row' columns' cells = .ok filled' ∧ R filled filled' := by
  induction same generalizing column row row' cells with
  | nil =>
    cases read
    exact ⟨row', rfl, related⟩
  | cons first _ ih =>
    cases cells with
    | nil =>
      -- The row is too short: it ends before a column that may be cut off, or it is not read.
      rw [Layout.fillPlaced] at read ⊢
      rw [← first.mayBeCutOff]
      split at read
      next cutOff =>
        rw [if_pos cutOff]
        exact ih trimmed related read
      next => cases read
    | cons cell cells =>
      obtain ⟨⟨raw, rfl⟩, others⟩ := List.forall_mem_cons.1 trimmed
      rw [Layout.fillPlaced] at read ⊢
      split at read
      · cases read
      next fill filling =>
        obtain ⟨fill', filling', step⟩ := first.read _ _ _ filling
        rw [filling']
        exact ih others (step _ _ related) read

/-- The second layout reads the rows that the first one reads. -/
theorem readRow (follows : layout.Follows R layout') {header : Option (List String)} {width : ℕ}
    {record : Row} (read : layout.readRow header width record = .ok row) :
    ∃ row', layout'.readRow header width record = .ok row' ∧ R row row' := by
  unfold Layout.readRow at read ⊢
  split at read
  · cases read
  next equal =>
    rw [if_neg equal]
    split at read
    · cases read
    next cells texts =>
      have trimmed := trimmed_of_cellTexts texts
      cases header with
      | some names =>
        cases named : layout.readNamed names cells with
        | error e =>
          simp only [named] at read
          cases read
        | ok filled =>
          simp only [named] at read
          cases read
          obtain ⟨row', named', related⟩ := follows.readNamed trimmed named
          exact ⟨row', by simp only [named']; rfl, related⟩
      | none =>
        cases placed : layout.fillPlaced 0 layout.blank layout.columns cells with
        | error e =>
          simp only [placed] at read
          cases read
        | ok filled =>
          simp only [placed] at read
          cases read
          obtain ⟨row', placed', related⟩ :
              ∃ row', layout'.fillPlaced 0 layout'.blank layout'.columns cells = .ok row' ∧
                R row row' := fillPlaced follows.columns trimmed follows.blank placed
          exact ⟨row', by simp only [placed']; rfl, related⟩

/-- The second layout reads the files that the first one reads, and their rows are related. -/
theorem read (follows : layout.Follows R layout') {bytes : List UInt8} {rows : List ρ}
    (read : layout.read bytes = .ok rows) :
    ∃ rows', layout'.read bytes = .ok rows' ∧ List.Forall₂ R rows rows' := by
  unfold Layout.read at read ⊢
  split at read
  · cases read
    exact ⟨[], rfl, .nil⟩
  · exact exists_mapM_of_mapM (fun _ _ => follows.readRow) read

end Layout.Follows

end IncomeTax.Csv
