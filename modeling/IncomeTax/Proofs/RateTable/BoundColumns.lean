import IncomeTax.Proofs.Csv.Table
import IncomeTax.Proofs.RateTable.Moderate
import IncomeTax.Proofs.RateTable.Seams
import IncomeTax.RateTable.Files

/-!
# The bounds of brackets, as they are written

In a file of brackets every bound but the first and the last is written twice: as the upper bound of
one bracket and as the lower bound of the next one. The two columns are read in different ways, so
the check of the table may see two numbers where the file has one text. Where the columns read their
cells alike, a file that repeats its bounds has neither a gap nor an overlap.

A bound with a point and more than fifteen digits can be read as two numbers, and the file is then
refused though its bounds are the same.

## Main definitions

* `BracketCells`, `BracketCells.layout` — a row of the file with its bounds as text
* `BracketCells.Reads` — what a row is read from
* `BracketCells.RepeatsBounds` — each lower bound of a table repeats the upper bound before it

## Main results

* `BracketCells.exists_load` — the cells that the rows of a file are read from
* `BracketCells.isChain_meets` — bounds that are repeated and read alike meet
* `BracketCells.bounds_read_alike` — which bounds can be repeated
-/

namespace IncomeTax

/-- A row of a file of brackets, with its bounds as they are written. -/
structure BracketCells where
  taxYear : TaxYear
  category : String
  lowerBound : String
  upperBound : String
  deriving DecidableEq

namespace BracketCells

/-- The columns of `brackets.csv`, with the bounds taken as text. -/
def layout : Csv.Layout BracketCells where
  columns := [
    taxYearColumn fun v c => { c with taxYear := v },
    textColumn "category" fun v c => { c with category := v },
    textColumn "lower_bound" fun v c => { c with lowerBound := v },
    textColumn "upper_bound" fun v c => { c with upperBound := v },
    textColumn "rate" fun _ c => c]
  blank := ⟨blankYear, "", "0", ""⟩
  rowName := "BracketRecord"

/-- The row is read from the cells. Blanks around a bound have been trimmed. -/
structure Reads (row : BracketRow) (c : BracketCells) : Prop where
  taxYear : row.taxYear = c.taxYear
  category : row.category = c.category
  lowerBound : Csv.readAmount c.lowerBound = .ok row.lowerBound
  upperBound : Csv.readOptionalAmount c.upperBound = .ok row.upperBound
  trimmed : Text.trim c.upperBound = c.upperBound

/-- The table that the bracket belongs to, if its category exists. -/
def key? (c : BracketCells) : Option RateTableKey := keyNamed? c.taxYear c.category

/-- In every table each lower bound repeats, as a text, the upper bound before it. -/
def RepeatsBounds (cells : List BracketCells) : Prop :=
  ∀ key, (cells.filter (·.key? = some key)).IsChain fun c next => next.lowerBound = c.upperBound

/-! ### Reading the cells -/

section Columns

variable {ρ σ α : Type} {R : ρ → σ → Prop} {name : String}

/-- A column of texts follows one that makes something of its cells. -/
theorem follows_text {parse : ℕ → String → Except Csv.CellError α} {set : α → ρ → ρ}
    {set' : String → σ → σ}
    (step : ∀ column cell value, parse column (Text.trim cell) = .ok value → ∀ row row',
      R row row' → R (set value row) (set' (Text.trim cell) row')) :
    Csv.Column.Follows R (requiredColumn name fun column s => (parse column s).map set)
      (textColumn name set') where
  name := rfl
  mayBeUnnamed := rfl
  mayBeCutOff := rfl
  read column cell fill read := by
    refine ⟨set' (Text.trim cell), rfl, ?_⟩
    simp only [requiredColumn] at read
    cases parsed : parse column (Text.trim cell) with
    | error e =>
      rw [parsed] at read
      cases read
    | ok value =>
      rw [parsed] at read
      cases read
      exact step column cell value parsed

/-- Two columns of tax years follow each other. -/
theorem follows_taxYear {set : TaxYear → ρ → ρ} {set' : TaxYear → σ → σ}
    (step : ∀ year row row', R row row' → R (set year row) (set' year row')) :
    Csv.Column.Follows R (taxYearColumn set) (taxYearColumn set') where
  name := rfl
  mayBeUnnamed := rfl
  mayBeCutOff := rfl
  read column cell fill read := by
    simp only [taxYearColumn, requiredColumn] at read ⊢
    cases parsed : readTaxYear column (Text.trim cell) with
    | error e =>
      rw [parsed] at read
      cases read
    | ok year =>
      rw [parsed] at read
      cases read
      exact ⟨set' year, rfl, step year⟩

end Columns

theorem follows_category : Csv.Column.Follows Reads
    (textColumn "category" fun v row => { row with category := v })
    (textColumn "category" fun v c => { c with category := v }) where
  name := rfl
  mayBeUnnamed := rfl
  mayBeCutOff := rfl
  read column cell fill read := by
    cases read
    refine ⟨_, rfl, ?_⟩
    rintro row c ⟨year, -, lower, upper, trimmed⟩
    exact ⟨year, rfl, lower, upper, trimmed⟩

theorem follows_lowerBound : Csv.Column.Follows Reads
    (amountColumn "lower_bound" fun v row => { row with lowerBound := v })
    (textColumn "lower_bound" fun v c => { c with lowerBound := v }) := by
  refine follows_text fun column cell value found row c reads => ?_
  obtain ⟨year, category, -, upper, trimmed⟩ := reads
  exact ⟨year, category, found, upper, trimmed⟩

theorem follows_upperBound : Csv.Column.Follows Reads
    (optionalAmountColumn "upper_bound" fun v row => { row with upperBound := v })
    (textColumn "upper_bound" fun v c => { c with upperBound := v }) := by
  refine follows_text fun column cell value found row c reads => ?_
  obtain ⟨year, category, lower, -, -⟩ := reads
  exact ⟨year, category, lower, found, Text.trim_trim cell⟩

theorem follows_rate : Csv.Column.Follows Reads
    (amountColumn "rate" fun v row => { row with rate := v })
    (textColumn "rate" fun _ c => c) := by
  refine follows_text fun column cell value found row c reads => ?_
  obtain ⟨year, category, lower, upper, trimmed⟩ := reads
  exact ⟨year, category, lower, upper, trimmed⟩

/-- The cells of a row are read along with the row. -/
theorem layout_follows : BracketRow.layout.Follows Reads layout where
  columns :=
    .cons (follows_taxYear fun year row c ⟨_, category, lower, upper, trimmed⟩ =>
      ⟨rfl, category, lower, upper, trimmed⟩) <|
    .cons follows_category <| .cons follows_lowerBound <| .cons follows_upperBound <|
    .cons follows_rate .nil
  blank := ⟨rfl, rfl, rfl, rfl, by decide⟩

variable {bytes : List UInt8} {rows : List BracketRow} {cells : List BracketCells}
  {row row' : BracketRow} {c next : BracketCells}

/-- The rows of a file are read from cells. -/
theorem exists_load (loaded : BracketRow.layout.load bytes = .ok rows) :
    ∃ cells, layout.load bytes = .ok cells ∧ List.Forall₂ Reads rows cells := by
  unfold Csv.Layout.load at loaded ⊢
  cases read : BracketRow.layout.read bytes with
  | error e =>
    rw [read] at loaded
    cases loaded
  | ok rows =>
    rw [read] at loaded
    cases loaded
    obtain ⟨cells, read', reads⟩ := layout_follows.read read
    exact ⟨cells, by rw [read']; rfl, reads⟩

/-! ### Bounds that are repeated -/

theorem Reads.key?_eq (reads : Reads row c) : (RateTableRow.bracket row).key? = c.key? := by
  have named : (RateTableRow.bracket row).key? = keyNamed? row.taxYear row.category := rfl
  rw [named, reads.taxYear, reads.category, key?]

/-- A bound that is repeated and reads alike is the same number in both brackets. -/
theorem Reads.meets (reads : Reads row c) (reads' : Reads row' next)
    (repeated : next.lowerBound = c.upperBound) (alike : Csv.ReadsAlike c.upperBound) :
    row.bracket.Meets row'.bracket := by
  intro upper bound
  have upper_read : Csv.readOptionalAmount c.upperBound = .ok (some upper) :=
    reads.upperBound.trans (congrArg Except.ok bound)
  have lower_read : Csv.readAmount c.upperBound = .ok row'.lowerBound :=
    repeated ▸ reads'.lowerBound
  exact alike _ _ lower_read upper_read

theorem isChain_meets (reads : List.Forall₂ Reads rows cells)
    (repeated : cells.IsChain fun c next => next.lowerBound = c.upperBound)
    (alike : ∀ c ∈ cells, Csv.ReadsAlike c.upperBound) :
    (rows.map BracketRow.bracket).IsChain BracketDefinition.Meets := by
  induction reads with
  | nil => exact .nil
  | cons first others ih =>
    rw [List.forall_mem_cons] at alike
    rw [List.isChain_cons] at repeated
    rw [List.map_cons, List.isChain_cons]
    refine ⟨?_, ih repeated.2 alike.2⟩
    -- The rows that follow each other are read from cells that follow each other.
    intro b head
    cases others with
    | nil => cases head
    | cons second _ =>
      cases head
      exact first.meets second (repeated.1 _ rfl) alike.1

end BracketCells

namespace RateTableRows

variable {rows : RateTableRows} {batch : TableBatch} {cells : List BracketCells}

theorem exists_assembly_of_load (loaded : rows.load = .ok batch) :
    ∃ a, rows.assembly = .ok a ∧ batch = ⟨a.definitions.values, a.faults.values⟩ := by
  unfold load assemble at loaded
  cases run : rows.assembly with
  | error e =>
    rw [run] at loaded
    cases loaded
  | ok a =>
    rw [run] at loaded
    cases loaded
    exact ⟨a, rfl, rfl⟩

/-- The brackets of every definition meet when their bounds are repeated and read alike. -/
theorem isChain_meets_of_mem {a : Assembly} {d : RateTableDefinition}
    (run : rows.assembly = .ok a) (reads : List.Forall₂ BracketCells.Reads rows.brackets cells)
    (repeated : BracketCells.RepeatsBounds cells)
    (alike : ∀ c ∈ cells, Csv.ReadsAlike c.upperBound) (member : d ∈ a.definitions.values) :
    d.brackets.IsChain BracketDefinition.Meets := by
  obtain ⟨sound, seen⟩ := sound_of_assembly run
  -- A definition has the brackets of its own rows, in the order of the file.
  rw [(collects_of_mem sound seen member).brackets]
  have own : List.Forall₂ BracketCells.Reads (rows.ofKey d.key).brackets
      (cells.filter (·.key? = some d.key)) := by
    refine List.rel_filter (fun row c reads => ?_) reads
    simp only [reads.key?_eq]
  exact BracketCells.isChain_meets own (repeated d.key)
    fun c listed => alike c (List.mem_of_mem_filter listed)

end RateTableRows

namespace BracketCells

/-- What both columns of bounds make of a cell is the same number exactly when the cell is no number
with a point or a power that double precision changes; it never changes a number that an amount can
hold with at most fifteen digits other than zeros at the end. The rows of every file of brackets are
read from cells; when each lower bound repeats the upper bound before it in its table, and all upper
bounds read alike, no table of the file has a gap or an overlap, whatever the other files say and
under both policies. -/
theorem bounds_read_alike (cell : String) (bytes : List UInt8) (rows : RateTableRows)
    (batch : TableBatch) :
    (Csv.ReadsAlike (Text.trim cell) ↔
      ∀ n : Text.Notation, n.chars = (Text.trim cell).toList → n.IsWhole ∨ n.Survives) ∧
    (∀ n : Text.Notation, n.IsShort → n.Survives) ∧
    (BracketRow.layout.load bytes = .ok rows.brackets → rows.load = .ok batch →
      ∃ cells, layout.load bytes = .ok cells ∧ List.Forall₂ Reads rows.brackets cells ∧
        (RepeatsBounds cells → (∀ c ∈ cells, Csv.ReadsAlike c.upperBound) →
          (∀ fault ∈ batch.faults, fault.isSeam = false) ∧
          ∀ policy,
            (∀ fault, RateTableSet.build batch.definitions batch.faults policy =
              .error (.fault fault) → fault.isSeam = false) ∧
            ∀ set, RateTableSet.build batch.definitions batch.faults policy = .ok set →
              ∀ key fault, set.faults.find? key = some fault → fault.isSeam = false)) := by
  refine ⟨Csv.readsAlike_iff cell, fun _ short => short.survives, fun loaded assembled => ?_⟩
  obtain ⟨cells, read, reads⟩ := exists_load loaded
  refine ⟨cells, read, reads, fun repeated alike => ?_⟩
  obtain ⟨a, run, rfl⟩ := RateTableRows.exists_assembly_of_load assembled
  -- A fault comes from the rows, from a definition alone, or from a table that is defined twice.
  have reported : ∀ fault ∈ a.faults.values, fault.isSeam = false :=
    fun fault => RateTableRows.isSeam_of_assembly run
  have own : ∀ d ∈ a.definitions.values, ∀ fault,
      RateTable.ofDefinition d = .error (.fault fault) → fault.isSeam = false :=
    fun d member fault => RateTable.isSeam_of_ofDefinition
      (RateTableRows.isChain_meets_of_mem run reads repeated alike member)
  refine ⟨reported, fun policy => ?_⟩
  have repeats : ∀ key, (TableFault.duplicateTable key).isSeam = false := fun _ => rfl
  have ends := RateTableSet.ends_build repeats own reported policy
  refine ⟨fun fault failed => ?_, fun set built => ?_⟩
  · rw [failed] at ends
    exact ends fault rfl
  · rw [built] at ends
    exact ends

/-! ### A file with two brackets -/

/-- A file with the two brackets of a table. The bound between them is written twice. -/
def sampleFile (bound : String) : List UInt8 :=
  ("tax_year,category,lower_bound,upper_bound,rate\n2022,resident,0," ++ bound ++
    ",0.3707\n2022,resident," ++ bound ++ ",,0.495\n").toUTF8.toList

/-- The key of the table. -/
def sampleKey : RateTableKey := ⟨⟨2022, by decide⟩, .resident⟩

/-- The cells of the file. -/
def sampleCells (bound : String) : List BracketCells :=
  [⟨sampleKey.taxYear, "resident", "0", bound⟩, ⟨sampleKey.taxYear, "resident", bound, ""⟩]

/-- The rows of the table, given those of its brackets. -/
def sampleRows (brackets : List BracketRow) : RateTableRows :=
  ⟨[⟨sampleKey.taxYear, "resident", "2022.1"⟩], brackets, [], [], []⟩

/-- The rows of the two brackets, given what is read of the bound between them. -/
def sampleBrackets (lower upper : Decimal) : List BracketRow :=
  [⟨sampleKey.taxYear, "resident", .zero, some upper, .unsigned 3707 4⟩,
    ⟨sampleKey.taxYear, "resident", lower, none, .unsigned 495 3⟩]

theorem repeatsBounds_sampleCells (bound : String) : RepeatsBounds (sampleCells bound) := by
  intro key
  have named : ∀ c ∈ sampleCells bound, c.key? = some sampleKey := by
    have resident : keyNamed? sampleKey.taxYear "resident" = some sampleKey := by decide +kernel
    simp only [sampleCells, List.forall_mem_cons]
    exact ⟨resident, resident, List.forall_mem_nil _⟩
  by_cases own : sampleKey = key
  · rw [List.filter_eq_self.2 fun c listed => by simp [named c listed, own]]
    exact .cons_cons rfl (.singleton _)
  · rw [List.filter_eq_nil_iff.2 fun c listed => by simpa [named c listed] using own]
    exact .nil

/-- A bound with two digits behind the point reads alike, though one column keeps the zero at its
end and the other one does not, and the sample file with this bound makes a table. -/
theorem bounds_read_alike_of_sampleFile :
    let bound := "69398.50"
    let rows := sampleRows (sampleBrackets (.unsigned 693985 1) (.unsigned 6939850 2))
    BracketRow.layout.load (sampleFile bound) = .ok rows.brackets ∧
    RepeatsBounds (sampleCells bound) ∧ (∀ c ∈ sampleCells bound, Csv.ReadsAlike c.upperBound) ∧
    ∃ batch, rows.load = .ok batch ∧ (∀ fault ∈ batch.faults, fault.isSeam = false) ∧
      ∃ set, RateTableSet.build batch.definitions batch.faults .quarantine = .ok set ∧
        set.keys = [sampleKey] ∧
        ∀ key fault, set.faults.find? key = some fault → fault.isSeam = false := by
  intro bound rows
  have loaded : BracketRow.layout.load (sampleFile bound) = .ok rows.brackets := by
    decide +kernel
  have read : layout.load (sampleFile bound) = .ok (sampleCells bound) := by
    decide +kernel
  have repeated := repeatsBounds_sampleCells bound
  obtain ⟨batch, assembled, evaluated⟩ : ∃ batch, rows.load = .ok batch ∧
      ((RateTableSet.build batch.definitions batch.faults .quarantine).toOption.any
        fun set => set.keys = [sampleKey]) = true :=
    exists_ok_of_any (by decide +kernel)
  obtain ⟨set, built, keys⟩ := exists_ok_of_any evaluated
  have alike : ∀ c ∈ sampleCells bound, Csv.ReadsAlike c.upperBound := by
    have reads : ∀ cell, Text.trim cell = cell → 'e' ∉ cell.toList → 'E' ∉ cell.toList →
        cell.toList.length ≤ 15 → Csv.ReadsAlike cell := by
      intro cell trimmed small capital few
      obtain ⟨exact, short, -⟩ := bounds_read_alike cell (sampleFile bound) rows batch
      rw [trimmed] at exact
      exact exact.2 fun n spelt =>
        .inr (short n (Text.Notation.isShort_of_chars spelt small capital few))
    simp only [sampleCells, List.forall_mem_cons]
    refine ⟨?_, ?_, List.forall_mem_nil _⟩
    · exact reads bound (by decide +kernel) (by decide +kernel) (by decide +kernel)
        (by decide +kernel)
    · exact reads "" (by decide +kernel) (by decide +kernel) (by decide +kernel)
        (by decide +kernel)
  refine ⟨loaded, repeated, alike, batch, assembled, ?_⟩
  obtain ⟨cells, read', -, seamless⟩ :=
    (bounds_read_alike bound (sampleFile bound) rows batch).2.2 loaded assembled
  rw [read, Except.ok.injEq] at read'
  subst read'
  obtain ⟨reported, seamless⟩ := seamless repeated alike
  exact ⟨reported, set, built, of_decide_eq_true keys, (seamless .quarantine).2 set built⟩

/-- A bound with twenty digits is read as two numbers: the first column goes through double
precision and loses the last digits. The sample file with this bound is refused as if its brackets
overlapped, though it has the same text twice. -/
theorem bounds_read_apart :
    let bound := "69398.123456789012345"
    let lower : Decimal := .unsigned 69398123456789 9
    let upper : Decimal := .unsigned 69398123456789012345 15
    let rows := sampleRows (sampleBrackets lower upper)
    Csv.readAmount bound = .ok lower ∧ Csv.readOptionalAmount bound = .ok (some upper) ∧
    lower.toRat < upper.toRat ∧ ¬ Csv.ReadsAlike bound ∧
    layout.load (sampleFile bound) = .ok (sampleCells bound) ∧ RepeatsBounds (sampleCells bound) ∧
    BracketRow.layout.load (sampleFile bound) = .ok rows.brackets ∧
    ∃ batch, rows.load = .ok batch ∧
      RateTableSet.build batch.definitions batch.faults .strict =
        .error (.fault (.bracketOverlap sampleKey 0)) ∧
      ∃ set, RateTableSet.build batch.definitions batch.faults .quarantine = .ok set ∧
        set.faults.find? sampleKey = some (.bracketOverlap sampleKey 0) := by
  intro bound lower upper rows
  have lower_read : Csv.readAmount bound = .ok lower := by decide +kernel
  have upper_read : Csv.readOptionalAmount bound = .ok (some upper) := by decide +kernel
  have below : lower.toRat < upper.toRat := Decimal.lt_iff_toRat.1 (by decide)
  obtain ⟨batch, assembled, evaluated⟩ : ∃ batch, rows.load = .ok batch ∧
      (decide (RateTableSet.build batch.definitions batch.faults .strict =
          .error (.fault (.bracketOverlap sampleKey 0))) &&
        (RateTableSet.build batch.definitions batch.faults .quarantine).toOption.any
          fun set => set.faults.find? sampleKey = some (.bracketOverlap sampleKey 0)) = true :=
    exists_ok_of_any (by decide +kernel)
  rw [Bool.and_eq_true, decide_eq_true_eq] at evaluated
  obtain ⟨set, built, kept⟩ := exists_ok_of_any evaluated.2
  refine ⟨lower_read, upper_read, below, fun alike => ?_, by decide +kernel,
    repeatsBounds_sampleCells bound, by decide +kernel, batch, assembled, evaluated.1, set, built,
    of_decide_eq_true kept⟩
  exact below.ne (alike lower upper lower_read upper_read)

end BracketCells

end IncomeTax
