import IncomeTax.Filing.Service
import Mathlib.Logic.Basic

/-!
# What a step leaves

Nothing takes back what a change in place has written, so a change may well fail and leave a trace.
It leaves none when it checks before it writes: a check only reads, and the writes behind the checks
do not fail. Every step of a declaration is of this kind. An edit runs a change of its own, which
may break off halfway, but that one works on a copy of the contents.

## Main definitions

* `InPlace.ReadsOnly`, `InPlace.Unfailing` — a check, and a write that does not fail
* `InPlace.IsAtomic` — a change that leaves no trace when it fails

## Main results

* `InPlace.ReadsOnly.bind_isAtomic` — checks may stand before a change
* `Declaration.isAtomic_edit`, `isAtomic_validateWith`, `isAtomic_submit`, `isAtomic_record`,
  `isAtomic_amend` — the steps of a declaration
* `Declaration.applyTo_edit_eq_ok_iff` and its like — when a step succeeds, and what it leaves then
-/

namespace IncomeTax

/-- A sequence of two steps succeeds when both do. -/
theorem bind_eq_ok_iff {ε α β : Type} {x : Except ε α} {f : α → Except ε β} {b : β} :
    (x >>= f) = .ok b ↔ ∃ a, x = .ok a ∧ f a = .ok b := by
  cases x <;> simp [bind, Except.bind]

/-- It fails when the first does, or the second one goes on with the value of the first and does. -/
theorem bind_eq_error_iff {ε α β : Type} {x : Except ε α} {f : α → Except ε β} {e : ε} :
    (x >>= f) = .error e ↔ x = .error e ∨ ∃ a, x = .ok a ∧ f a = .error e := by
  cases x <;> simp [bind, Except.bind]

theorem mapError_eq_ok_iff {ε ε' α : Type} {f : ε → ε'} {x : Except ε α} {a : α} :
    x.mapError f = .ok a ↔ x = .ok a := by
  constructor
  · intro mapped
    cases x with
    | error e => cases mapped
    | ok a' =>
      cases mapped
      rfl
  · rintro rfl
    rfl

theorem FilingError.ofState_eq_ok_iff {α : Type} {x : Except StateError α} {a : α} :
    ofState x = .ok a ↔ x = .ok a := by
  cases x <;> simp [ofState]

theorem FilingService.tableFor_eq_ok_iff {tables : RateTableSet} {d : Declaration}
    {table : RateTable} :
    FilingService.tableFor tables d = .ok table ↔ tables.lookup d.rateTableKey = .ok table :=
  mapError_eq_ok_iff

namespace InPlace

variable {ε σ α β : Type} {x : InPlace ε σ α} {f : α → InPlace ε σ β} {v v' : σ}

/-! ### The outcome of a change -/

@[simp] theorem applyTo_throw (e : ε) (v : σ) :
    applyTo (throw e : InPlace ε σ α) v = (.error e, v) := rfl

@[simp] theorem applyTo_get (v : σ) : applyTo (get : InPlace ε σ σ) v = (.ok v, v) := rfl

@[simp] theorem applyTo_lift (x : Except ε α) (v : σ) :
    applyTo (liftM x : InPlace ε σ α) v = (x, v) := by
  cases x <;> rfl

theorem applyTo_forFiling (x : InPlace StateError σ α) (v : σ) :
    x.forFiling.applyTo v = ((x.applyTo v).1.mapError .state, (x.applyTo v).2) := rfl

/-- The second of two changes goes on with what the first one leaves, unless that has failed. -/
theorem applyTo_bind (x : InPlace ε σ α) (f : α → InPlace ε σ β) (v : σ) :
    applyTo (x >>= f) v =
      match x.applyTo v with
      | (.ok a, v') => (f a).applyTo v'
      | (.error e, v') => (.error e, v') := by
  unfold applyTo
  simp only [ExceptT.run_bind, StateT.run_bind]
  rcases x.run.run v with ⟨e | a, v'⟩ <;> rfl

theorem applyTo_bind_of_eq_ok {a : α} (first : x.applyTo v = (.ok a, v')) :
    applyTo (x >>= f) v = (f a).applyTo v' := by
  rw [applyTo_bind, first]

theorem applyTo_bind_of_eq_error {e : ε} (first : x.applyTo v = (.error e, v')) :
    applyTo (x >>= f) v = (.error e, v') := by
  rw [applyTo_bind, first]

theorem applyTo_bind_eq_error_iff {e : ε} {v'' : σ} :
    applyTo (x >>= f) v = (.error e, v'') ↔
      x.applyTo v = (.error e, v'') ∨
        ∃ a v', x.applyTo v = (.ok a, v') ∧ (f a).applyTo v' = (.error e, v'') := by
  rcases first : x.applyTo v with ⟨e' | a, v'⟩
  · simp [applyTo_bind_of_eq_error first]
  · rw [applyTo_bind_of_eq_ok first]
    constructor
    · intro second
      exact .inr ⟨a, v', rfl, second⟩
    · rintro (failed | ⟨a', v₁, same, second⟩)
      · cases failed
      · cases same
        exact second

@[simp] theorem applyTo_map (g : α → β) (x : InPlace ε σ α) (v : σ) :
    applyTo (g <$> x) v = ((x.applyTo v).1.map g, (x.applyTo v).2) := by
  rw [map_eq_pure_bind, applyTo_bind]
  rcases x.applyTo v with ⟨e | a, v'⟩ <;> rfl

@[simp] theorem applyTo_get_bind (f : σ → InPlace ε σ β) (v : σ) :
    applyTo (get >>= f) v = (f v).applyTo v := rfl

@[simp] theorem applyTo_getThe_bind (f : σ → InPlace ε σ β) (v : σ) :
    applyTo (getThe σ >>= f) v = (f v).applyTo v := rfl

@[simp] theorem applyTo_modify_bind (write : σ → σ) (f : PUnit → InPlace ε σ β) (v : σ) :
    applyTo (modify write >>= f) v = (f ⟨⟩).applyTo (write v) := rfl

theorem applyTo_lift_bind_eq_ok_iff {x : Except ε α} {b : β} :
    applyTo (liftM x >>= f) v = (.ok b, v') ↔ ∃ a, x = .ok a ∧ (f a).applyTo v = (.ok b, v') := by
  cases x <;> simp [applyTo_bind]

theorem applyTo_lift_bind_eq_error_iff {x : Except ε α} {e : ε} :
    applyTo (liftM x >>= f) v = (.error e, v') ↔
      (x = .error e ∧ v' = v) ∨ ∃ a, x = .ok a ∧ (f a).applyTo v = (.error e, v') := by
  cases x <;> simp [applyTo_bind, eq_comm]

theorem applyTo_forFiling_eq_ok_iff {x : InPlace StateError σ α} {a : α} :
    x.forFiling.applyTo v = (.ok a, v') ↔ x.applyTo v = (.ok a, v') := by
  rw [applyTo_forFiling, Prod.mk.injEq, mapError_eq_ok_iff, Prod.ext_iff]

theorem applyTo_forFiling_eq_error_iff {x : InPlace StateError σ α} {e : FilingError} :
    x.forFiling.applyTo v = (.error e, v') ↔
      ∃ e', x.applyTo v = (.error e', v') ∧ e = .state e' := by
  rw [applyTo_forFiling]
  rcases x.applyTo v with ⟨e' | a', v''⟩
  · constructor
    · intro failed
      cases failed
      exact ⟨e', rfl, rfl⟩
    · rintro ⟨e', same, rfl⟩
      cases same
      rfl
  · constructor
    · rintro ⟨⟩
    · rintro ⟨e', ⟨⟩, -⟩

/-! ### Changes that leave no trace when they fail -/

/-- The change leaves every value as it is. -/
def ReadsOnly (x : InPlace ε σ α) : Prop := ∀ v, (x.applyTo v).2 = v

/-- The change does not fail. -/
def Unfailing (x : InPlace ε σ α) : Prop := ∀ v e v', x.applyTo v ≠ (.error e, v')

/-- The change leaves a value as it is when it fails. -/
def IsAtomic (x : InPlace ε σ α) : Prop := ∀ v e v', x.applyTo v = (.error e, v') → v' = v

theorem readsOnly_get : ReadsOnly (get : InPlace ε σ σ) := fun _ => rfl

theorem readsOnly_lift (x : Except ε α) : ReadsOnly (liftM x : InPlace ε σ α) := fun v => by
  rw [applyTo_lift]

theorem ReadsOnly.eq_of_applyTo {answer : Except ε α} (reads : ReadsOnly x)
    (applied : x.applyTo v = (answer, v')) : v' = v := by
  rw [← reads v, applied]

theorem ReadsOnly.bind (reads : ReadsOnly x) (rest : ∀ a, ReadsOnly (f a)) :
    ReadsOnly (x >>= f) := by
  intro v
  rcases first : x.applyTo v with ⟨e | a, v'⟩
  · rw [applyTo_bind_of_eq_error first]
    exact reads.eq_of_applyTo first
  · rw [applyTo_bind_of_eq_ok first, rest a v']
    exact reads.eq_of_applyTo first

theorem unfailing_pure (a : α) : Unfailing (pure a : InPlace ε σ α) := fun _ _ _ => nofun

theorem unfailing_get : Unfailing (get : InPlace ε σ σ) := fun _ _ _ => nofun

theorem unfailing_modify (write : σ → σ) : Unfailing (modify write : InPlace ε σ PUnit) :=
  fun _ _ _ => nofun

theorem Unfailing.bind (writes : Unfailing x) (rest : ∀ a, Unfailing (f a)) :
    Unfailing (x >>= f) := by
  intro v e v'' failed
  rcases applyTo_bind_eq_error_iff.1 failed with failed | ⟨a, v', -, failed⟩
  · exact writes v e v'' failed
  · exact rest a v' e v'' failed

theorem ReadsOnly.isAtomic (reads : ReadsOnly x) : IsAtomic x :=
  fun _ _ _ => reads.eq_of_applyTo

theorem Unfailing.isAtomic (writes : Unfailing x) : IsAtomic x :=
  fun v e v' failed => absurd failed (writes v e v')

/-- Whatever is checked before a change, it leaves no trace when either fails. -/
theorem ReadsOnly.bind_isAtomic (reads : ReadsOnly x) (rest : ∀ a, IsAtomic (f a)) :
    IsAtomic (x >>= f) := by
  intro v e v'' failed
  rcases applyTo_bind_eq_error_iff.1 failed with failed | ⟨a, v', checked, failed⟩
  · exact reads.eq_of_applyTo failed
  · exact (rest a v' e v'' failed).trans (reads.eq_of_applyTo checked)

/-- What stands behind an error is not run. -/
theorem isAtomic_throw_bind (e : ε) (f : α → InPlace ε σ β) : IsAtomic (throw e >>= f) := by
  intro v e' v' failed
  cases failed
  rfl

theorem IsAtomic.ite {x y : InPlace ε σ α} {p : Prop} [Decidable p] (yes : IsAtomic x)
    (no : IsAtomic y) : IsAtomic (if p then x else y) := by
  split
  · exact yes
  · exact no

theorem IsAtomic.forFiling {x : InPlace StateError σ α} (atomic : IsAtomic x) :
    IsAtomic x.forFiling := by
  intro v e v' failed
  obtain ⟨e', failed, -⟩ := applyTo_forFiling_eq_error_iff.1 failed
  exact atomic v e' v' failed

end InPlace

namespace Declaration

open InPlace

variable {d d' : Declaration} {status : DeclarationStatus}

/-! ### The steps check before they write -/

theorem unfailing_transition {ε : Type} (target : DeclarationStatus) :
    Unfailing (transition target : InPlace ε Declaration DeclarationStatus) :=
  (unfailing_modify _).bind fun _ => unfailing_pure _

theorem isAtomic_edit (change : ContentEdit) : IsAtomic (edit change) := by
  refine readsOnly_get.bind_isAtomic fun d => .ite (isAtomic_throw_bind _ _) ?_
  -- Whether or not the change of the copy is broken off, the declaration has not been written yet.
  rcases change.applyTo d.content with ⟨ended, content⟩
  refine (readsOnly_lift _).bind_isAtomic fun _ => .ite (isAtomic_throw_bind _ _) ?_
  refine Unfailing.isAtomic ?_
  exact (unfailing_modify _).bind fun _ => (unfailing_modify _).bind fun _ =>
    (unfailing_modify _).bind fun _ => unfailing_get.bind fun _ => unfailing_pure _

theorem isAtomic_validateWith (table : RateTable) : IsAtomic (validateWith table) := by
  refine readsOnly_get.bind_isAtomic fun d => (readsOnly_lift _).bind_isAtomic fun _ => ?_
  -- The assessment may fail or overflow, but nothing is written before it has come to its end.
  refine readsOnly_get.bind_isAtomic fun d => (readsOnly_lift _).bind_isAtomic fun c => ?_
  exact ((unfailing_modify _).bind fun _ => unfailing_transition _).isAtomic

theorem isAtomic_submit : IsAtomic submit := by
  refine readsOnly_get.bind_isAtomic fun d => (readsOnly_lift _).bind_isAtomic fun _ => ?_
  refine readsOnly_get.bind_isAtomic fun d => .ite (isAtomic_throw_bind _ _) ?_
  exact (unfailing_transition _).isAtomic

theorem isAtomic_record (event : ProcessingEvent) : IsAtomic (record event) := by
  refine readsOnly_get.bind_isAtomic fun d => (readsOnly_lift _).bind_isAtomic fun _ => ?_
  exact (unfailing_transition _).isAtomic

theorem isAtomic_amend (id : DeclarationId) : IsAtomic (amend id) := by
  refine readsOnly_get.bind_isAtomic fun d => (readsOnly_lift _).bind_isAtomic fun _ => ?_
  -- The amendment is made of what is read here, before the status is written.
  refine readsOnly_get.bind_isAtomic fun d => Unfailing.isAtomic ?_
  exact (unfailing_transition _).bind fun _ => unfailing_pure _

/-! ### What a step that succeeds makes of a declaration -/

theorem checkEdge_eq_ok_iff {target : DeclarationStatus} {u : Unit} :
    d.checkEdge target = .ok u ↔ d.status.leadsTo target = true := by
  unfold checkEdge
  cases d.status.leadsTo target <;> simp

theorem applyTo_transition {ε : Type} (target : DeclarationStatus) (d : Declaration) :
    (transition target : InPlace ε Declaration DeclarationStatus).applyTo d =
      (.ok target, { d with status := target }) := rfl

theorem applyTo_edit_eq_ok_iff {change : ContentEdit} :
    (edit change).applyTo d = (.ok status, d') ↔
      d.isEditable = true ∧ ∃ content, change.applyTo d.content = (some (), content) ∧
        Text.trim content.taxpayer.bsn = Text.trim d.content.taxpayer.bsn ∧ status = .draft ∧
        d' = { d with content, status := .draft, calculation := none } := by
  simp only [edit, applyTo_get_bind]
  cases editable : d.isEditable with
  | false => simp
  | true =>
    rcases change.applyTo d.content with ⟨_ | _, content⟩
    · simp [applyTo_lift_bind_eq_ok_iff, FilingError.ofOption]
    by_cases same : Text.trim content.taxpayer.bsn = Text.trim d.content.taxpayer.bsn
    · simp [applyTo_lift_bind_eq_ok_iff, FilingError.ofOption, same, Except.map, @eq_comm _ d',
        @eq_comm _ status]
    · simp [applyTo_lift_bind_eq_ok_iff, same]

theorem applyTo_validateWith_eq_ok_iff {table : RateTable} :
    (validateWith table).applyTo d = (.ok status, d') ↔
      d.status.leadsTo .validated = true ∧ ∃ c, d.assess table = .ok c ∧ status = .validated ∧
        d' = { d with status := .validated, calculation := some c } := by
  simp [validateWith, applyTo_lift_bind_eq_ok_iff, applyTo_transition,
    FilingError.ofState_eq_ok_iff, checkEdge_eq_ok_iff, @eq_comm _ d', @eq_comm _ status]

theorem applyTo_submit_eq_ok_iff :
    submit.applyTo d = (.ok status, d') ↔
      d.status.leadsTo .submitted = true ∧ d.calculation.isSome = true ∧ status = .submitted ∧
        d' = { d with status := .submitted } := by
  simp only [submit, applyTo_get_bind, applyTo_lift_bind_eq_ok_iff, checkEdge_eq_ok_iff]
  rw [← Option.not_isNone]
  cases d.calculation.isNone <;> simp [applyTo_transition, @eq_comm _ d', @eq_comm _ status]

theorem applyTo_record_eq_ok_iff {event : ProcessingEvent} :
    (record event).applyTo d = (.ok status, d') ↔
      d.status.leadsTo event.target = true ∧ status = event.target ∧
        d' = { d with status := event.target } := by
  simp [record, applyTo_lift_bind_eq_ok_iff, applyTo_transition, checkEdge_eq_ok_iff,
    @eq_comm _ d', @eq_comm _ status]

theorem applyTo_amend_eq_ok_iff {id : DeclarationId} {replacement : Declaration} :
    (amend id).applyTo d = (.ok replacement, d') ↔
      d.status.leadsTo .amended = true ∧ replacement = amendment id d ∧
        d' = { d with status := .amended } := by
  simp [amend, applyTo_lift_bind_eq_ok_iff, applyTo_transition, Except.map, checkEdge_eq_ok_iff,
    @eq_comm _ d', @eq_comm _ replacement]

theorem applyTo_amend_of_no_edge {id : DeclarationId} (edge : d.status.leadsTo .amended = false) :
    (amend id).applyTo d = (.error (.invalidTransition d.status .amended), d) := by
  simp only [amend, applyTo_get_bind]
  refine applyTo_lift_bind_eq_error_iff.2 (.inl ⟨?_, rfl⟩)
  simp [checkEdge, edge]

end Declaration

namespace FilingService

open InPlace

variable {d d' : Declaration} {status : DeclarationStatus}

/-! ### The steps against the tables of a service -/

theorem readsOnly_previewStep (tables : RateTableSet) : ReadsOnly (previewStep tables) :=
  readsOnly_get.bind fun _ => (readsOnly_lift _).bind fun _ => readsOnly_lift _

theorem applyTo_previewStep (tables : RateTableSet) (d : Declaration) :
    (previewStep tables).applyTo d = (tableFor tables d >>= d.assess, d) := by
  rw [previewStep, applyTo_getThe_bind, applyTo_bind, applyTo_lift]
  cases tableFor tables d with
  | error e => rfl
  | ok table => simp only [applyTo_lift, bind, Except.bind]

theorem isAtomic_validateStep (tables : RateTableSet) : IsAtomic (validateStep tables) :=
  readsOnly_get.bind_isAtomic fun _ => (readsOnly_lift _).bind_isAtomic
    Declaration.isAtomic_validateWith

theorem applyTo_validateStep_eq_ok_iff {tables : RateTableSet} :
    (validateStep tables).applyTo d = (.ok status, d') ↔
      ∃ table, tables.lookup d.rateTableKey = .ok table ∧
        (Declaration.validateWith table).applyTo d = (.ok status, d') := by
  simp only [validateStep, applyTo_getThe_bind, applyTo_lift_bind_eq_ok_iff, tableFor_eq_ok_iff]

end FilingService

end IncomeTax
