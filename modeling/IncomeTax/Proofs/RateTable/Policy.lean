import IncomeTax.Proofs.RateTable.Published

/-!
# The two fault policies side by side

The strict policy gives up at the first fault, while the quarantine policy withdraws the key of a
fault and goes on. Until there is a fault both build the same set. The fault that stops the strict
policy is the first one of its key for the quarantine policy, which keeps it through whatever comes
after. So strict builds succeed exactly when quarantining ones keep no fault, and otherwise fail with
a fault that quarantining ones keep.

## Main definitions

* `RateTableSet.Agrees` — what a strict build has come to, beside a quarantining one

## Main results

* `RateTableSet.Agrees.exists_addDefinition`, `RateTableSet.Agrees.exists_addFault` — one step of
  both builds
* `RateTableSet.exists_foldlM_agrees` — a whole run of such steps
* `RateTableSet.build_strict_exact` — both builds of one input
-/

namespace IncomeTax.RateTableSet

/-- A strict build agrees with the set of a quarantining one: either it has the same set and nothing
is out of use yet, or it has failed with a fault that is kept for its key. -/
inductive Agrees : Except TableError RateTableSet → RateTableSet → Prop
  | sound {set : RateTableSet} (clean : set.faults = .empty) : Agrees (.ok set) set
  | failed {set : RateTableSet} {fault : TableFault}
      (kept : set.faults.find? fault.key = some fault) : Agrees (.error (.fault fault)) set

variable {set : RateTableSet} {key : RateTableKey} {fault : TableFault} {d : RateTableDefinition}
  {strict : Except TableError RateTableSet}

/-! ### One step -/

/-- A key that is out of use keeps its fault, whatever is found next. -/
theorem find?_faults_quarantine (kept : set.faults.find? key = some fault) (next : TableFault) :
    (set.quarantine next).faults.find? key = some fault := by
  unfold quarantine
  by_cases same : next.key = key
  · subst same
    rw [OrderedMap.find?_insertNew_self, kept, Option.getD_some]
  · rw [OrderedMap.find?_insertNew_of_ne _ _ same]
    exact kept

/-- Where nothing is out of use, quarantine keeps the fault it meets. -/
theorem find?_faults_quarantine_of_clean (clean : set.faults = .empty) (fault : TableFault) :
    (set.quarantine fault).faults.find? fault.key = some fault := by
  unfold quarantine
  rw [OrderedMap.find?_insertNew_self, clean, OrderedMap.find?_empty, Option.getD_none]

theorem nextTable_ne_overflow (set : RateTableSet)
    (fits : RateTable.ofDefinition d ≠ .error .overflow) :
    set.nextTable d ≠ .error .overflow := by
  unfold nextTable
  split
  · exact nofun
  · exact fits

/-- Both policies add the table of a definition, unless it has a fault. -/
theorem addDefinition_of_nextTable_eq_ok {table : RateTable} (next : set.nextTable d = .ok table)
    (policy : FaultPolicy) : addDefinition policy set d = .ok (set.insert d.key table) := by
  rw [addDefinition, next]

/-- A fault of a definition is handled like one that is reported. -/
theorem addDefinition_of_nextTable_eq_fault (next : set.nextTable d = .error (.fault fault))
    (policy : FaultPolicy) : addDefinition policy set d = addFault policy set fault := by
  rw [addDefinition, next]

/-- A reported fault keeps the builds in agreement. -/
theorem Agrees.exists_addFault (agrees : Agrees strict set) (fault : TableFault) :
    ∃ set', addFault .quarantine set fault = .ok set' ∧
      Agrees (strict >>= fun s => addFault .strict s fault) set' := by
  refine ⟨set.quarantine fault, rfl, ?_⟩
  cases agrees with
  | sound clean => exact .failed (find?_faults_quarantine_of_clean clean fault)
  | failed kept => exact .failed (find?_faults_quarantine kept fault)

/-- A definition keeps the builds in agreement. -/
theorem Agrees.exists_addDefinition (agrees : Agrees strict set)
    (fits : RateTable.ofDefinition d ≠ .error .overflow) :
    ∃ set', addDefinition .quarantine set d = .ok set' ∧
      Agrees (strict >>= fun s => addDefinition .strict s d) set' := by
  cases next : set.nextTable d with
  | ok table =>
    refine ⟨set.insert d.key table, addDefinition_of_nextTable_eq_ok next _, ?_⟩
    cases agrees with
    | sound clean =>
      -- Nothing is out of use yet, and a table puts nothing out of use.
      have added := addDefinition_of_nextTable_eq_ok next .strict
      have agrees : Agrees (.ok (set.insert d.key table)) (set.insert d.key table) := .sound clean
      rwa [← added] at agrees
    | failed kept => exact .failed kept
  | error e =>
    cases e with
    | overflow => exact absurd next (set.nextTable_ne_overflow fits)
    | fault fault =>
      obtain ⟨set', reported, agrees'⟩ := agrees.exists_addFault fault
      refine ⟨set', (addDefinition_of_nextTable_eq_fault next _).trans reported, ?_⟩
      cases agrees with
      | sound =>
        have agrees' : Agrees (addFault .strict set fault) set' := agrees'
        rwa [← addDefinition_of_nextTable_eq_fault next] at agrees'
      | failed => exact agrees'

/-! ### Whole builds -/

/-- A run of steps keeps the builds in agreement when each of them does. -/
theorem exists_foldlM_agrees {ι : Type} {items : List ι}
    {step : FaultPolicy → RateTableSet → ι → Except TableError RateTableSet}
    (one : ∀ item ∈ items, ∀ strict set, Agrees strict set →
      ∃ set', step .quarantine set item = .ok set' ∧
        Agrees (strict >>= fun s => step .strict s item) set')
    (agrees : Agrees strict set) :
    ∃ set', items.foldlM (step .quarantine) set = .ok set' ∧
      Agrees (strict >>= items.foldlM (step .strict)) set' := by
  induction items generalizing strict set with
  | nil =>
    refine ⟨set, rfl, ?_⟩
    cases agrees with
    | sound clean => exact .sound clean
    | failed kept => exact .failed kept
  | cons item rest ih =>
    rw [List.forall_mem_cons] at one
    obtain ⟨set₁, stepped, agrees₁⟩ := one.1 strict set agrees
    obtain ⟨set₂, run, agrees₂⟩ := ih one.2 agrees₁
    refine ⟨set₂, ?_, ?_⟩
    · rw [List.foldlM_cons, stepped]
      exact run
    · rw [bind_assoc] at agrees₂
      simpa only [List.foldlM_cons] using agrees₂

section Builds

variable {definitions : List RateTableDefinition}
  (fits : ∀ d ∈ definitions, RateTable.ofDefinition d ≠ .error .overflow)

include fits

/-- Both builds of one input agree. -/
theorem exists_build_agrees (faults : List TableFault) :
    ∃ set, build definitions faults .quarantine = .ok set ∧
      Agrees (build definitions faults .strict) set := by
  have start : Agrees (.ok empty) empty := .sound rfl
  obtain ⟨set, added, agrees⟩ := exists_foldlM_agrees
    (fun d member _ _ agrees => agrees.exists_addDefinition (fits d member)) start
  obtain ⟨set', reported, agrees'⟩ := exists_foldlM_agrees
    (fun fault (_ : fault ∈ faults) _ _ agrees => agrees.exists_addFault fault) agrees
  refine ⟨set', ?_, ?_⟩
  · rw [build, added]
    exact reported
  · exact agrees'

/-- A strict build succeeds exactly when the quarantining build of the same input keeps no fault, and
both then give the same set. When it fails, it fails with a fault, and the quarantining build keeps
just that fault for its key. -/
theorem build_strict_exact (faults : List TableFault) :
    ∃ set, build definitions faults .quarantine = .ok set ∧
      ((∃ set', build definitions faults .strict = .ok set') ↔ set.faults = .empty) ∧
      (∀ set', build definitions faults .strict = .ok set' → set' = set) ∧
      ∀ e, build definitions faults .strict = .error e →
        ∃ fault, e = .fault fault ∧ set.faults.find? fault.key = some fault := by
  obtain ⟨set, built, agrees⟩ := exists_build_agrees fits faults
  refine ⟨set, built, ?_⟩
  generalize build definitions faults .strict = strict at agrees
  cases agrees with
  | sound clean =>
    refine ⟨iff_of_true ⟨set, rfl⟩ clean, fun set' same => ?_, fun e same => ?_⟩
    · cases same
      rfl
    · cases same
  | @failed _ fault kept =>
    have unclean : set.faults ≠ .empty := fun clean => by
      rw [clean] at kept
      cases kept
    refine ⟨iff_of_false (fun ⟨_, same⟩ => nomatch same) unclean, nofun, fun e same => ?_⟩
    cases same
    exact ⟨fault, rfl, kept⟩

end Builds

/-- The sample batch fails under the strict policy with the missing version of its second definition,
and the quarantining build keeps this fault for the key, though a sound definition of it follows. -/
theorem build_strict_exact_of_sampleBatch :
    let fault : TableFault := .missingVersion (sampleKey ⟨2025, by decide⟩)
    (∀ d ∈ sampleBatch.definitions, RateTable.ofDefinition d ≠ .error .overflow) ∧
    ∃ set, build sampleBatch.definitions sampleBatch.faults .quarantine = .ok set ∧
      build sampleBatch.definitions sampleBatch.faults .strict = .error (.fault fault) ∧
      set.faults ≠ .empty ∧ set.faults.find? fault.key = some fault := by
  intro fault
  have fits : ∀ d ∈ sampleBatch.definitions, RateTable.ofDefinition d ≠ .error .overflow := by
    decide +kernel
  have failed :
      build sampleBatch.definitions sampleBatch.faults .strict = .error (.fault fault) := by
    rfl
  obtain ⟨set, built, succeeds, -, kept⟩ := build_strict_exact fits sampleBatch.faults
  obtain ⟨found, same, kept⟩ := kept _ failed
  cases same
  refine ⟨fits, set, built, failed, fun clean => ?_, kept⟩
  obtain ⟨set', succeeded⟩ := succeeds.2 clean
  rw [failed] at succeeded
  cases succeeded

end IncomeTax.RateTableSet
