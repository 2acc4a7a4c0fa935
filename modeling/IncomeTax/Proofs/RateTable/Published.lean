import IncomeTax.Proofs.RateTable.Moderate
import IncomeTax.Proofs.RateTable.Verdict
import IncomeTax.RateTable.Published

/-!
# What a quarantining build publishes

Under the quarantine policy a build always succeeds, as long as no base tax outgrows an amount. What
it publishes for a key depends on the definitions with that key, in their order, and on the first
fault that the source reports for it: a table is served when it is the only definition, it is sound
and no fault is reported. So the tables that are served do not depend on any order.

## Main definitions

* `RateTableSet.verdict` — the verdict on a key
* `RateTableSet.Faulted` — the fault that a key is withdrawn for

## Main results

* `RateTable.key_of_ofDefinition_eq_fault` — every fault of a definition names its key
* `RateTableSet.exists_build` — a quarantining build, seen at one key
* `RateTableSet.lookup_build_quarantine` — what is published for a key
-/

namespace IncomeTax

namespace RateTable

variable {key : RateTableKey} {fault : TableFault}

/-! ### The key of a fault -/

theorem key_of_bracketFault? {index : Nat} {b : BracketDefinition}
    {next : Option BracketDefinition} (broken : bracketFault? key index b next = some fault) :
    fault.key = key := by
  unfold bracketFault? at broken
  split at broken
  · cases broken
    rfl
  · split at broken
    · cases broken
    · cases broken
      rfl
    · cases broken
      rfl
    · split_ifs at broken <;> cases broken <;> rfl

theorem key_of_brackets? {index : Nat} {base : Decimal} {definitions : List BracketDefinition}
    (broken : brackets? key index base definitions = .error (.fault fault)) : fault.key = key := by
  induction definitions generalizing index base with
  | nil => cases broken
  | cons b rest ih =>
    unfold brackets? at broken
    split at broken
    next found =>
      cases broken
      exact key_of_bracketFault? found
    · split at broken
      · cases broken
      · split at broken
        next e failed =>
          cases broken
          exact ih failed
        · cases broken

theorem key_of_allBrackets? {definitions : List BracketDefinition}
    (broken : allBrackets? key definitions = .error (.fault fault)) : fault.key = key := by
  unfold allBrackets? at broken
  split at broken
  · cases broken
    rfl
  · split at broken
    · cases broken
      rfl
    · exact key_of_brackets? broken

theorem key_of_thresholdFault? {entry : String × Decimal}
    (broken : thresholdFault? key entry = some fault) : fault.key = key := by
  unfold thresholdFault? at broken
  split_ifs at broken
  cases broken
  rfl

theorem key_of_creditFault? {entry : CreditType × CreditRule}
    (broken : creditFault? key entry = some fault) : fault.key = key := by
  unfold creditFault? at broken
  split at broken
  · cases broken
    rfl
  · split at broken
    · cases broken
    · split_ifs at broken
      cases broken
      rfl

theorem key_of_deductionFault? {entry : DeductionType × DeductionRule}
    (broken : deductionFault? key entry = some fault) : fault.key = key := by
  unfold deductionFault? at broken
  split_ifs at broken
  cases broken
  rfl

theorem key_of_rulesFault? {d : RateTableDefinition} (broken : rulesFault? d = some fault) :
    fault.key = d.key := by
  simp only [rulesFault?, Option.or_eq_some_iff] at broken
  rcases broken with (found | ⟨-, found⟩) | ⟨-, found⟩ <;>
    obtain ⟨entry, -, broken⟩ := List.exists_of_findSome?_eq_some found
  · exact key_of_thresholdFault? broken
  · exact key_of_creditFault? broken
  · exact key_of_deductionFault? broken

variable {d : RateTableDefinition}

/-- Every fault of a definition names its key. -/
theorem key_of_ofDefinition_eq_fault (broken : ofDefinition d = .error (.fault fault)) :
    fault.key = d.key := by
  unfold ofDefinition at broken
  split at broken
  · cases broken
    rfl
  · split at broken
    next e failed =>
      cases broken
      exact key_of_allBrackets? failed
    · split at broken
      next found =>
        cases broken
        exact key_of_rulesFault? found
      · cases broken

/-- A table has the key of its definition. -/
theorem key_of_ofDefinition {t : RateTable} (built : ofDefinition d = .ok t) : t.key = d.key := by
  obtain ⟨-, brackets, -, -, rfl⟩ := ofDefinition_eq_ok_iff.1 built
  rfl

/-- The verdict of a definition taken alone; there is none when a base tax outgrows an amount. -/
def verdictOf (d : RateTableDefinition) : Verdict TableFault RateTable :=
  match ofDefinition d with
  | .ok table => some (.ok table)
  | .error (.fault fault) => some (.error fault)
  | .error .overflow => none

theorem verdictOf_eq_ok_iff {t : RateTable} :
    verdictOf d = some (.ok t) ↔ ofDefinition d = .ok t := by
  unfold verdictOf
  split <;> simp_all

theorem verdictOf_eq_error_iff :
    verdictOf d = some (.error fault) ↔ ofDefinition d = .error (.fault fault) := by
  unfold verdictOf
  split <;> simp_all

theorem verdictOf_eq_none_iff : verdictOf d = none ↔ ofDefinition d = .error .overflow := by
  unfold verdictOf
  split <;> simp_all

end RateTable

namespace RateTableSet

open RateTable (verdictOf)

/-- What the set says of a key. -/
def verdict (set : RateTableSet) (key : RateTableKey) : Verdict TableFault RateTable :=
  Verdict.of set.tables set.faults key

/-- The tables that are served have no fault. -/
def Apart (set : RateTableSet) : Prop := Verdict.Apart set.tables set.faults

variable {set : RateTableSet} {key : RateTableKey} {table : RateTable} {fault : TableFault}

theorem apart_empty : empty.Apart := Verdict.apart_empty

/-! ### What a look-up says of the verdict -/

theorem lookup_eq_ok_iff : set.lookup key = .ok table ↔ set.verdict key = some (.ok table) := by
  unfold lookup verdict Verdict.of
  cases set.faults.find? key <;> cases set.tables.find? key <;> simp

theorem lookup_eq_notFound_iff {key' : RateTableKey} :
    set.lookup key = .error (.notFound key') ↔ key' = key ∧ set.verdict key = none := by
  unfold lookup verdict Verdict.of
  cases set.faults.find? key <;> cases set.tables.find? key <;> simp [eq_comm]

theorem lookup_eq_faulty_iff :
    set.lookup key = .error (.faulty fault) ↔ set.verdict key = some (.error fault) := by
  unfold lookup verdict Verdict.of
  cases set.faults.find? key <;> cases set.tables.find? key <;> simp

/-! ### Steps -/

/-- The verdict on a key after one more definition with the key. -/
def publish (key : RateTableKey) (found : Verdict TableFault RateTable)
    (d : RateTableDefinition) : Verdict TableFault RateTable :=
  found.next (verdictOf d) fun _ => .error (.duplicateTable key)

/-- The verdict on a key after a fault that is reported for it. -/
def withdraw (found : Verdict TableFault RateTable) (fault : TableFault) :
    Verdict TableFault RateTable :=
  found.next (some (.error fault)) fun _ => .error fault

theorem knows_eq_false_iff : set.knows key = false ↔ set.verdict key = none := by
  unfold knows verdict
  rw [Bool.or_eq_false_iff, OrderedMap.contains_eq_false_iff, OrderedMap.contains_eq_false_iff,
    Verdict.of_eq_none_iff]

theorem verdict_quarantine : (set.quarantine fault).verdict key =
    if fault.key = key then withdraw (set.verdict key) fault else set.verdict key := by
  refine Verdict.of_giveUp.trans ?_
  by_cases same : fault.key = key
  · subst same
    unfold verdict Verdict.of withdraw
    cases set.faults.find? fault.key with
    | some first => rfl
    | none => cases set.tables.find? fault.key <;> rfl
  · rw [if_neg same, if_neg same]
    rfl

theorem Apart.quarantine (apart : set.Apart) (fault : TableFault) :
    (set.quarantine fault).Apart := Verdict.Apart.giveUp apart

/-- A reported fault changes the verdict on its key. -/
theorem exists_addFault (set : RateTableSet) (fault : TableFault) (apart : set.Apart) :
    ∃ set', addFault .quarantine set fault = .ok set' ∧ set'.Apart ∧ ∀ key, set'.verdict key =
      if decide (fault.key = key) then withdraw (set.verdict key) fault else set.verdict key :=
  ⟨set.quarantine fault, rfl, apart.quarantine fault, fun key => by
    rw [verdict_quarantine]
    simp only [decide_eq_true_eq]⟩

/-- A definition changes the verdict on its key. -/
theorem exists_addDefinition (set : RateTableSet) {d : RateTableDefinition}
    (fits : RateTable.ofDefinition d ≠ .error .overflow) (apart : set.Apart) :
    ∃ set', addDefinition .quarantine set d = .ok set' ∧ set'.Apart ∧ ∀ key, set'.verdict key =
      if decide (d.key = key) then publish key (set.verdict key) d else set.verdict key := by
  unfold addDefinition nextTable
  cases known : set.knows d.key with
  | true =>
    refine ⟨set.quarantine (.duplicateTable d.key), rfl, apart.quarantine _, fun key => ?_⟩
    rw [verdict_quarantine]
    by_cases same : d.key = key
    · subst same
      have seen : set.verdict d.key ≠ none := fun unseen => by
        rw [knows_eq_false_iff.2 unseen] at known
        cases known
      obtain ⟨outcome, found⟩ := Option.ne_none_iff_exists'.1 seen
      simp [TableFault.key, publish, withdraw, found, Verdict.next]
    · simp [TableFault.key, same]
  | false =>
    have unseen := knows_eq_false_iff.1 known
    simp only [Bool.false_eq_true, if_false]
    cases built : RateTable.ofDefinition d with
    | ok table =>
      have free := (Verdict.of_eq_none_iff.1 unseen).2
      refine ⟨set.insert d.key table, rfl, Verdict.Apart.insert apart free, fun key => ?_⟩
      refine (Verdict.of_insert free).trans ?_
      by_cases same : d.key = key
      · subst same
        simp [publish, unseen, Verdict.next, RateTable.verdictOf_eq_ok_iff.2 built]
      · simp [same, verdict]
    | error e =>
      cases e with
      | overflow => exact absurd built fits
      | fault fault =>
        refine ⟨set.quarantine fault, rfl, apart.quarantine fault, fun key => ?_⟩
        rw [verdict_quarantine, RateTable.key_of_ofDefinition_eq_fault built]
        by_cases same : d.key = key
        · subst same
          simp [publish, withdraw, unseen, Verdict.next,
            RateTable.verdictOf_eq_error_iff.2 built]
        · simp [same]

/-! ### The definitions and the reported faults of one key -/

section OneKey

variable {found : Verdict TableFault RateTable} {ds : List RateTableDefinition}

/-- A second definition withdraws the table of the first one, and leaves its fault as it is. -/
theorem foldl_publish_cons {d : RateTableDefinition} (rest : List RateTableDefinition)
    (fits : RateTable.ofDefinition d ≠ .error .overflow) :
    (d :: rest).foldl (publish key) none =
      if rest = [] then verdictOf d
      else (verdictOf d).map fun outcome => outcome.bind fun _ => .error (.duplicateTable key) := by
  obtain ⟨outcome, alone⟩ :=
    Option.ne_none_iff_exists'.1 (mt RateTable.verdictOf_eq_none_iff.1 fits)
  have first : publish key none d = some outcome := alone
  rw [List.foldl_cons, first, alone]
  refine (Verdict.foldl_next_some verdictOf (fun _ _ => .error (.duplicateTable key)) rest
    outcome).trans ?_
  cases rest with
  | nil => cases outcome <;> rfl
  | cons second rest => rfl

theorem foldl_publish_eq_none_iff
    (fits : ∀ d ∈ ds, RateTable.ofDefinition d ≠ .error .overflow) :
    ds.foldl (publish key) none = none ↔ ds = [] := by
  cases ds with
  | nil => simp
  | cons d rest =>
    have fits := (List.forall_mem_cons.1 fits).1
    rw [foldl_publish_cons rest fits]
    split <;> simp [RateTable.verdictOf_eq_none_iff, fits]

theorem foldl_publish_eq_ok_iff
    (fits : ∀ d ∈ ds, RateTable.ofDefinition d ≠ .error .overflow) :
    ds.foldl (publish key) none = some (.ok table) ↔
      ∃ d, ds = [d] ∧ RateTable.ofDefinition d = .ok table := by
  cases ds with
  | nil => simp
  | cons d rest =>
    rw [foldl_publish_cons rest (List.forall_mem_cons.1 fits).1]
    split
    next only => simp [only, RateTable.verdictOf_eq_ok_iff]
    next more =>
      have spoilt : ∀ outcome : Except TableFault RateTable,
          outcome.bind (fun _ => .error (.duplicateTable key)) ≠ .ok table := by
        rintro (_ | _) <;> nofun
      simp [more, spoilt]

theorem foldl_publish_eq_error_iff
    (fits : ∀ d ∈ ds, RateTable.ofDefinition d ≠ .error .overflow) :
    ds.foldl (publish key) none = some (.error fault) ↔
      (∃ d rest, ds = d :: rest ∧ RateTable.ofDefinition d = .error (.fault fault)) ∨
      ∃ d second rest t, ds = d :: second :: rest ∧ RateTable.ofDefinition d = .ok t ∧
        fault = .duplicateTable key := by
  cases ds with
  | nil => simp
  | cons d rest =>
    rw [foldl_publish_cons rest (List.forall_mem_cons.1 fits).1]
    cases rest with
    | nil => simp [RateTable.verdictOf_eq_error_iff]
    | cons second rest =>
      rw [if_neg (List.cons_ne_nil _ _)]
      cases built : RateTable.ofDefinition d with
      | ok t => simp [RateTable.verdictOf_eq_ok_iff.2 built, Except.bind, built, eq_comm]
      | error e =>
        cases e with
        | overflow => exact absurd built (List.forall_mem_cons.1 fits).1
        | fault first =>
          simp [RateTable.verdictOf_eq_error_iff.2 built, Except.bind, built]

/-- A reported fault leaves a fault. -/
theorem exists_withdraw (found : Verdict TableFault RateTable) (reported : TableFault) :
    ∃ fault, withdraw found reported = some (.error fault) := by
  cases found with
  | none => exact ⟨reported, rfl⟩
  | some outcome => cases outcome <;> exact ⟨_, rfl⟩

/-- Only the first fault that is reported for a key counts. -/
theorem foldl_withdraw (found : Verdict TableFault RateTable) (faults : List TableFault) :
    faults.foldl withdraw found = faults.head?.elim found (withdraw found) := by
  cases faults with
  | nil => rfl
  | cons first rest =>
    obtain ⟨fault, final⟩ := exists_withdraw found first
    rw [List.foldl_cons, List.head?_cons, Option.elim_some, final]
    exact Verdict.foldl_next_some (fun fault => some (.error fault)) (fun fault _ => .error fault)
      rest (.error fault)

variable {reported : Option TableFault}

theorem elim_withdraw_eq_none_iff :
    reported.elim found (withdraw found) = none ↔ found = none ∧ reported = none := by
  cases reported with
  | none => simp
  | some first =>
    obtain ⟨fault, final⟩ := exists_withdraw found first
    simp [final]

theorem elim_withdraw_eq_ok_iff :
    reported.elim found (withdraw found) = some (.ok table) ↔
      found = some (.ok table) ∧ reported = none := by
  cases reported with
  | none => simp
  | some first =>
    obtain ⟨fault, final⟩ := exists_withdraw found first
    simp [final]

theorem elim_withdraw_eq_error_iff :
    reported.elim found (withdraw found) = some (.error fault) ↔
      found = some (.error fault) ∨
        (found = none ∨ ∃ t, found = some (.ok t)) ∧ reported = some fault := by
  cases reported with
  | none => simp
  | some first =>
    cases found with
    | none => simp [withdraw, Verdict.next]
    | some outcome => cases outcome <;> simp [withdraw, Verdict.next, Except.bind]

end OneKey

/-! ### Whole builds -/

section Builds

variable {definitions definitions' : List RateTableDefinition} {faults faults' : List TableFault}

/-- What the definitions of a key say of it, and a fault that is reported for it. -/
def outcome (definitions : List RateTableDefinition) (faults : List TableFault)
    (key : RateTableKey) : Verdict TableFault RateTable :=
  let published := (definitions.filter (·.key = key)).foldl (publish key) none
  (faults.find? (·.key = key)).elim published (withdraw published)

/-- A quarantining build succeeds, and what it says of a key is the outcome for the key. -/
theorem exists_build (fits : ∀ d ∈ definitions, RateTable.ofDefinition d ≠ .error .overflow)
    (faults : List TableFault) :
    ∃ set, build definitions faults .quarantine = .ok set ∧ set.Apart ∧
      ∀ key, set.verdict key = outcome definitions faults key := by
  obtain ⟨set, added, apart, seen⟩ := Verdict.exists_foldlM_of_step
    (fun d member set apart => exists_addDefinition set (fits d member) apart)
    apart_empty
  obtain ⟨set', reported, apart', seen'⟩ := Verdict.exists_foldlM_of_step
    (fun fault (_ : fault ∈ faults) set apart => exists_addFault set fault apart) apart
  refine ⟨set', ?_, apart', fun key => ?_⟩
  · rw [build, added]
    exact reported
  · rw [seen', seen, foldl_withdraw, List.head?_filter]
    rfl

theorem find?_key_eq_none_iff :
    faults.find? (·.key = key) = none ↔ ∀ fault ∈ faults, fault.key ≠ key := by
  simp

/-- The fault that keeps a key from use: that of its first definition, else a second definition, else
the first fault that is reported for it. -/
inductive Faulted (definitions : List RateTableDefinition) (faults : List TableFault)
    (key : RateTableKey) : TableFault → Prop
  | own {d : RateTableDefinition} {rest : List RateTableDefinition} {fault : TableFault}
      (published : definitions.filter (·.key = key) = d :: rest)
      (broken : RateTable.ofDefinition d = .error (.fault fault)) :
      Faulted definitions faults key fault
  | repeated {d second : RateTableDefinition} {rest : List RateTableDefinition} {t : RateTable}
      (published : definitions.filter (·.key = key) = d :: second :: rest)
      (sound : RateTable.ofDefinition d = .ok t) :
      Faulted definitions faults key (.duplicateTable key)
  | reported {fault : TableFault}
      (published : definitions.filter (·.key = key) = [] ∨
        ∃ d t, definitions.filter (·.key = key) = [d] ∧ RateTable.ofDefinition d = .ok t)
      (first : faults.find? (·.key = key) = some fault) :
      Faulted definitions faults key fault

variable (fits : ∀ d ∈ definitions, RateTable.ofDefinition d ≠ .error .overflow)

include fits

theorem fits_filter (key : RateTableKey) : ∀ d ∈ definitions.filter (·.key = key),
    RateTable.ofDefinition d ≠ .error .overflow :=
  fun d member => fits d (List.mem_of_mem_filter member)

theorem outcome_eq_none_iff : outcome definitions faults key = none ↔
    (∀ d ∈ definitions, d.key ≠ key) ∧ ∀ fault ∈ faults, fault.key ≠ key := by
  rw [outcome, elim_withdraw_eq_none_iff, foldl_publish_eq_none_iff (fits_filter fits key),
    find?_key_eq_none_iff, List.filter_eq_nil_iff]
  simp only [decide_eq_true_eq]

theorem outcome_eq_ok_iff : outcome definitions faults key = some (.ok table) ↔
    (∃ d, definitions.filter (·.key = key) = [d] ∧ RateTable.ofDefinition d = .ok table) ∧
      ∀ fault ∈ faults, fault.key ≠ key := by
  rw [outcome, elim_withdraw_eq_ok_iff, foldl_publish_eq_ok_iff (fits_filter fits key),
    find?_key_eq_none_iff]

theorem outcome_eq_error_iff : outcome definitions faults key = some (.error fault) ↔
    Faulted definitions faults key fault := by
  rw [outcome, elim_withdraw_eq_error_iff, foldl_publish_eq_error_iff (fits_filter fits key),
    foldl_publish_eq_none_iff (fits_filter fits key)]
  simp only [foldl_publish_eq_ok_iff (fits_filter fits key)]
  constructor
  · rintro ((⟨d, rest, published, broken⟩ | ⟨d, second, rest, t, published, sound, rfl⟩) |
      ⟨none | ⟨t, d, published, sound⟩, first⟩)
    · exact .own published broken
    · exact .repeated published sound
    · exact .reported (.inl none) first
    · exact .reported (.inr ⟨d, t, published, sound⟩) first
  · rintro (⟨published, broken⟩ | ⟨published, sound⟩ | ⟨none | ⟨d, t, published, sound⟩, first⟩)
    · exact .inl (.inl ⟨_, _, published, broken⟩)
    · exact .inl (.inr ⟨_, _, _, _, published, sound, rfl⟩)
    · exact .inr ⟨.inl none, first⟩
    · exact .inr ⟨.inr ⟨t, d, published, sound⟩, first⟩

/-- The tables of a key do not depend on the order of definitions and of reported faults. -/
theorem outcome_eq_ok_of_perm (reordered : definitions.Perm definitions')
    (reordered' : faults.Perm faults') (served : outcome definitions faults key = some (.ok table)) :
    outcome definitions' faults' key = some (.ok table) := by
  have fits' : ∀ d ∈ definitions', RateTable.ofDefinition d ≠ .error .overflow :=
    fun d member => fits d (reordered.mem_iff.2 member)
  obtain ⟨⟨d, only, built⟩, silent⟩ := (outcome_eq_ok_iff fits).1 served
  have same := reordered.filter (·.key = key)
  rw [only, List.singleton_perm] at same
  exact (outcome_eq_ok_iff fits').2
    ⟨⟨d, same.symm, built⟩, fun fault member => silent fault (reordered'.mem_iff.2 member)⟩

/-- A quarantining build succeeds, and what it publishes for a key does not depend on what there is
for other keys. A table is served exactly when it comes from the only definition of its key and no
fault is reported for it. Nothing is published exactly when there is neither a definition nor a
fault. Every other key is kept from use by a fault, so it is not among the keys that are served.
Which tables are served depends on no order. -/
theorem lookup_build_quarantine :
    ∃ set, build definitions faults .quarantine = .ok set ∧
      (∀ key table, set.lookup key = .ok table ↔
        (∃ d, definitions.filter (·.key = key) = [d] ∧ RateTable.ofDefinition d = .ok table) ∧
          ∀ fault ∈ faults, fault.key ≠ key) ∧
      (∀ key table, set.lookup key = .ok table → table.key = key) ∧
      (∀ key key', set.lookup key = .error (.notFound key') ↔
        key' = key ∧ (∀ d ∈ definitions, d.key ≠ key) ∧ ∀ fault ∈ faults, fault.key ≠ key) ∧
      (∀ key fault, set.lookup key = .error (.faulty fault) ↔
        Faulted definitions faults key fault) ∧
      (∀ key ∈ set.keys, key ∉ set.faults.keys) ∧
      ∀ definitions' faults', definitions.Perm definitions' → faults.Perm faults' →
        ∃ set', build definitions' faults' .quarantine = .ok set' ∧ set'.tables = set.tables := by
  obtain ⟨set, built, apart, seen⟩ := exists_build fits faults
  have served : ∀ key table, set.lookup key = .ok table ↔
      (∃ d, definitions.filter (·.key = key) = [d] ∧ RateTable.ofDefinition d = .ok table) ∧
        ∀ fault ∈ faults, fault.key ≠ key := by
    intro key table
    rw [lookup_eq_ok_iff, seen, outcome_eq_ok_iff fits]
  refine ⟨set, built, served, ?_, ?_, ?_, ?_, ?_⟩
  · intro key table found
    obtain ⟨⟨d, only, sound⟩, -⟩ := (served key table).1 found
    have member : d ∈ definitions.filter (·.key = key) := by
      rw [only]
      exact List.mem_singleton_self d
    rw [RateTable.key_of_ofDefinition sound]
    simpa using List.of_mem_filter member
  · intro key key'
    rw [lookup_eq_notFound_iff, seen, outcome_eq_none_iff fits]
  · intro key fault
    rw [lookup_eq_faulty_iff, seen, outcome_eq_error_iff fits]
  · intro key listed listed'
    obtain ⟨table, found⟩ := OrderedMap.mem_keys_iff.1 listed
    obtain ⟨fault, found'⟩ := OrderedMap.mem_keys_iff.1 listed'
    rw [apart key table found] at found'
    cases found'
  · intro definitions' faults' reordered reordered'
    have fits' : ∀ d ∈ definitions', RateTable.ofDefinition d ≠ .error .overflow :=
      fun d member => fits d (reordered.mem_iff.2 member)
    obtain ⟨set', built', apart', seen'⟩ := exists_build fits' faults'
    refine ⟨set', built', OrderedMap.eq_of_find? fun key => Option.ext fun table => ?_⟩
    rw [← apart'.of_eq_ok_iff, ← apart.of_eq_ok_iff]
    change set'.verdict key = _ ↔ set.verdict key = _
    rw [seen', seen]
    exact ⟨outcome_eq_ok_of_perm fits' reordered.symm reordered'.symm,
      outcome_eq_ok_of_perm fits reordered reordered'⟩

end Builds

/-! ### A batch with faults -/

/-- The residents' key of a year. -/
def sampleKey (year : TaxYear) : RateTableKey := ⟨year, .resident⟩

/-- The sample table of another year and version. -/
def sampleOf (year : TaxYear) (version : String) : RateTableDefinition :=
  { RateTableDefinition.sample2024 with taxYear := year, version := version }

/-- A sound table for 2024, a broken and a sound one for 2025, two sound ones for 2026, and for 2027
a sound one with a reported fault. -/
def sampleBatch : TableBatch where
  definitions :=
    [.sample2024, sampleOf ⟨2025, by decide⟩ " ", sampleOf ⟨2026, by decide⟩ "2026.1",
      sampleOf ⟨2025, by decide⟩ "2025.2", sampleOf ⟨2027, by decide⟩ "2027.1",
      sampleOf ⟨2026, by decide⟩ "2026.2"]
  faults :=
    [.duplicateEntry (sampleKey ⟨2027, by decide⟩) "credit labour-credit",
      .malformedEntry (sampleKey ⟨2027, by decide⟩) "no rows"]

/-- Of the sample batch only the table for 2024 is served; the other keys have the fault of the first
definition, a second definition and the first reported fault, and for 2028 nothing is published. -/
theorem lookup_build_quarantine_of_sampleBatch :
    (∀ d ∈ sampleBatch.definitions, RateTable.ofDefinition d ≠ .error .overflow) ∧
    ∃ set, build sampleBatch.definitions sampleBatch.faults .quarantine = .ok set ∧
      (∃ table, set.lookup (sampleKey ⟨2024, by decide⟩) = .ok table) ∧
      set.lookup (sampleKey ⟨2025, by decide⟩) =
        .error (.faulty (.missingVersion (sampleKey ⟨2025, by decide⟩))) ∧
      set.lookup (sampleKey ⟨2026, by decide⟩) =
        .error (.faulty (.duplicateTable (sampleKey ⟨2026, by decide⟩))) ∧
      set.lookup (sampleKey ⟨2027, by decide⟩) = .error (.faulty
        (.duplicateEntry (sampleKey ⟨2027, by decide⟩) "credit labour-credit")) ∧
      set.lookup (sampleKey ⟨2028, by decide⟩) =
        .error (.notFound (sampleKey ⟨2028, by decide⟩)) := by
  have sound : ∀ d, (RateTable.ofDefinition d).isOk = true →
      ∃ t, RateTable.ofDefinition d = .ok t := by
    intro d ok
    cases built : RateTable.ofDefinition d with
    | ok t => exact ⟨t, rfl⟩
    | error e =>
      rw [built] at ok
      cases ok
  have fits : ∀ d ∈ sampleBatch.definitions, RateTable.ofDefinition d ≠ .error .overflow := by
    decide +kernel
  obtain ⟨set, built, served, -, absent, faulted, -⟩ :
      ∃ set, build sampleBatch.definitions sampleBatch.faults .quarantine = .ok set ∧ _ :=
    lookup_build_quarantine fits
  refine ⟨fits, set, built, ?_, ?_, ?_, ?_, ?_⟩
  · obtain ⟨t, sound⟩ := sound .sample2024 (by decide +kernel)
    exact ⟨t, (served _ t).2 ⟨⟨.sample2024, by rfl, sound⟩, by decide⟩⟩
  · exact (faulted _ _).2 (.own (show _ = [_, _] by rfl) (by rfl))
  · obtain ⟨t, sound⟩ := sound (sampleOf ⟨2026, by decide⟩ "2026.1") (by decide +kernel)
    exact (faulted _ _).2 (.repeated (show _ = [_, _] by rfl) sound)
  · obtain ⟨t, sound⟩ := sound (sampleOf ⟨2027, by decide⟩ "2027.1") (by decide +kernel)
    exact (faulted _ _).2 (.reported (.inr ⟨_, t, by rfl, sound⟩) (by rfl))
  · exact (absent _ _).2 ⟨rfl, by decide, by decide⟩

end RateTableSet

end IncomeTax
