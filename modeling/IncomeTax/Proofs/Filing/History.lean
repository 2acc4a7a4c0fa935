import IncomeTax.Proofs.Filing.Frame
import IncomeTax.Proofs.Filing.LiveIndex

/-!
# The history of a declaration

An operation leaves a stored declaration as it is, replaces its contents by an edit, or takes it one
edge further. So whatever happens in a run, a declaration is never lost, it keeps what identifies
its filing for life, it keeps its contents and its calculation from its submission on, and once it is
amended it refuses every operation that would change it.

## Main definitions

* `Declaration.Move` — what an operation may make of a declaration, other than leave it as it is
* `Declaration.Continues` — what a declaration keeps of an earlier state of itself

## Main results

* `FilingService.exists_successor` — what one operation makes of a stored declaration
* `FilingService.exists_continuation` — what a run makes of it
* `FilingService.history_of_run` — the course of every declaration in every run
-/

namespace IncomeTax

/-- Past its validation a declaration stays past it: no edge leads back to where it is editable. -/
theorem DeclarationStatus.isEditable_of_leadsTo {status target : DeclarationStatus}
    (locked : status.isEditable = false) (edge : status.leadsTo target = true) :
    target.isEditable = false ∧ target ≠ .validated := by
  cases status with
  | draft | validated => cases locked
  | submitted | processing | approved | rejected | amended =>
    cases target <;> first | exact ⟨rfl, nofun⟩ | cases edge

namespace Declaration

/-- What an operation may make of the declaration with a number, other than leave it as it is: an
edit makes it a draft with other contents of the same taxpayer, and every other change takes its
status along an edge, with a new calculation when it becomes validated. -/
inductive Move (id : DeclarationId) (d : Declaration) : FilingOperation → Declaration → Prop
  | edited (change : ContentEdit) (content : DeclarationContent) (editable : d.isEditable = true)
      (number : Text.trim content.taxpayer.bsn = Text.trim d.content.taxpayer.bsn) :
      Move id d (.edit id change) { d with content := content, status := .draft, calculation := none }
  | advanced (op : FilingOperation) (status : DeclarationStatus)
      (calculation : Option CalculationResult) (edge : d.status.leadsTo status = true)
      (attached : status ≠ .validated → calculation = d.calculation) :
      Move id d op { d with status, calculation }

/-- A later state of a declaration keeps what identifies its filing, and past its validation it keeps
contents and calculation and stays past it. -/
structure Continues (d d' : Declaration) : Prop where
  taxYear_eq : d'.taxYear = d.taxYear
  category_eq : d'.category = d.category
  identity_eq : d'.identity = d.identity
  amends_eq : d'.amends = d.amends
  filingKey_eq : d'.filingKey = d.filingKey
  locked : d.isEditable = false →
    d'.content = d.content ∧ d'.calculation = d.calculation ∧ d'.isEditable = false
  amended : d.status = .amended → d' = d

variable {id : DeclarationId} {op : FilingOperation} {d d' d'' : Declaration}

theorem Continues.refl (d : Declaration) : d.Continues d :=
  ⟨rfl, rfl, rfl, rfl, rfl, fun locked => ⟨rfl, rfl, locked⟩, fun _ => rfl⟩

theorem Continues.trans (first : d.Continues d') (second : d'.Continues d'') :
    d.Continues d'' where
  taxYear_eq := second.taxYear_eq.trans first.taxYear_eq
  category_eq := second.category_eq.trans first.category_eq
  identity_eq := second.identity_eq.trans first.identity_eq
  amends_eq := second.amends_eq.trans first.amends_eq
  filingKey_eq := second.filingKey_eq.trans first.filingKey_eq
  locked locked := by
    obtain ⟨contents, calculation, locked'⟩ := first.locked locked
    obtain ⟨contents', calculation', locked''⟩ := second.locked locked'
    exact ⟨contents'.trans contents, calculation'.trans calculation, locked''⟩
  amended amended := by
    have same := first.amended amended
    subst same
    exact second.amended amended

namespace Move

/-- Nothing but an edit takes a declaration back, from validated to draft. -/
theorem status_step (move : d.Move id op d') :
    d'.status = d.status ∨ d.status.leadsTo d'.status = true ∨
      d.status = .validated ∧ d'.status = .draft ∧ ∃ change, op = .edit id change := by
  cases move with
  | advanced _ _ _ edge => exact .inr (.inl edge)
  | edited change content editable =>
    -- Only a draft and a validated declaration can be edited.
    cases before : d.status with
    | draft => exact .inl rfl
    | validated => exact .inr (.inr ⟨rfl, rfl, change, rfl⟩)
    | submitted | processing | approved | rejected | amended =>
      rw [isEditable, before] at editable
      cases editable

/-- An amended declaration is not moved. -/
theorem status_ne_amended (move : d.Move id op d') : d.status ≠ .amended := by
  cases move with
  | advanced _ _ _ edge => exact DeclarationStatus.ne_amended_of_leadsTo edge
  | edited _ _ editable =>
    intro amended
    rw [isEditable, amended] at editable
    cases editable

theorem filingKey_eq (move : d.Move id op d') : d'.filingKey = d.filingKey := by
  cases move with
  | edited _ content _ number => exact congrArg (FilingKey.mk · d.taxYear d.category) number
  | advanced => rfl

theorem continues (move : d.Move id op d') : d.Continues d' where
  taxYear_eq := by cases move <;> rfl
  category_eq := by cases move <;> rfl
  identity_eq := by cases move <;> rfl
  amends_eq := by cases move <;> rfl
  filingKey_eq := move.filingKey_eq
  locked locked := by
    cases move with
    | edited _ _ editable =>
      rw [locked] at editable
      cases editable
    | advanced _ _ _ edge attached =>
      obtain ⟨stays, unvalidated⟩ := DeclarationStatus.isEditable_of_leadsTo locked edge
      exact ⟨rfl, attached unvalidated, stays⟩
  amended amended := absurd amended move.status_ne_amended

end Move

end Declaration

/-- A step that succeeds moves the declaration it is run on. -/
theorem FilingOperation.move_of_step? {tables : RateTableSet} {op : FilingOperation}
    {id : DeclarationId} {step : InPlace FilingError Declaration DeclarationStatus}
    {d d' : Declaration} {status : DeclarationStatus} (found : op.step? tables = some (id, step))
    (stepped : step.applyTo d = (.ok status, d')) : d.Move id op d' := by
  cases op with
  | edit _ change =>
    cases found
    obtain ⟨editable, content, -, number, -, rfl⟩ := Declaration.applyTo_edit_eq_ok_iff.1 stepped
    exact .edited change content editable number
  | validate =>
    cases found
    obtain ⟨table, -, stepped⟩ := FilingService.applyTo_validateStep_eq_ok_iff.1 stepped
    obtain ⟨edge, c, -, -, rfl⟩ := Declaration.applyTo_validateWith_eq_ok_iff.1 stepped
    exact .advanced _ .validated (some c) edge (absurd rfl)
  | submit =>
    cases found
    obtain ⟨edge, -, -, rfl⟩ :=
      Declaration.applyTo_submit_eq_ok_iff.1 (InPlace.applyTo_forFiling_eq_ok_iff.1 stepped)
    exact .advanced _ .submitted d.calculation edge fun _ => rfl
  | record _ event =>
    cases found
    obtain ⟨edge, -, rfl⟩ :=
      Declaration.applyTo_record_eq_ok_iff.1 (InPlace.applyTo_forFiling_eq_ok_iff.1 stepped)
    exact .advanced _ event.target d.calculation edge fun _ => rfl
  | create | get | preview | amend | lookup | reload | reloadFrom => cases found

/-- An operation on a declaration that does not read it acts on it. -/
theorem FilingOperation.acts_of_subject? {op : FilingOperation} {id : DeclarationId}
    (named : op.subject? = some id) (unread : op ≠ .get id) (unpreviewed : op ≠ .preview id) :
    op.isReading = false := by
  cases op with
  | get => exact absurd (congrArg FilingOperation.get (Option.some.inj named)) unread
  | preview => exact absurd (congrArg FilingOperation.preview (Option.some.inj named)) unpreviewed
  | lookup => cases named
  | create | edit | validate | submit | record | amend | reload | reloadFrom => rfl

/-- An operation that acts on a declaration in place runs a step on it. -/
theorem FilingOperation.exists_step? {op : FilingOperation} {id : DeclarationId}
    (tables : RateTableSet) (named : op.subject? = some id) (acting : op.isReading = false)
    (inPlace : op ≠ .amend id) : ∃ step, op.step? tables = some (id, step) := by
  cases op with
  | edit | validate | submit | record =>
    cases named
    exact ⟨_, rfl⟩
  | amend =>
    cases named
    exact absurd rfl inPlace
  | get | preview => cases acting
  | create | lookup | reload | reloadFrom => cases named

namespace FilingService

variable {s : FilingService} {op : FilingOperation} {id : DeclarationId} {d : Declaration}

/-! ### What one operation makes of a declaration -/

/-- A step in place fails and changes no declaration, or moves the declaration that it names. -/
theorem perform_in_place_cases (named : op.subject? = some id) (acting : op.isReading = false)
    (inPlace : op ≠ .amend id) :
    (∃ e store, s.perform op = ({ s with store }, .error e) ∧ s.store.Alike store) ∨
      ∃ d d' answer, s.store.declarations.find? id = some d ∧ d.Move id op d' ∧
        s.perform op = ({ s with store := s.store.replace id d' }, .ok answer) := by
  obtain ⟨step, found⟩ := FilingOperation.exists_step? s.tables named acting inPlace
  rcases perform_step_cases found with
    ⟨e, store, refused, alike, -⟩ | ⟨d, d', status, stored, stepped, replaced⟩
  · exact .inl ⟨e, store, refused, alike⟩
  · exact .inr ⟨d, d', _, stored, FilingOperation.move_of_step? found stepped, replaced⟩

/-- An amended declaration refuses every operation but the two that read it. -/
theorem perform_error_of_amended (stored : s.store.declarations.find? id = some d)
    (amended : d.status = .amended) (named : op.subject? = some id)
    (acting : op.isReading = false) : ∃ e, (s.perform op).2 = .error e := by
  by_cases inPlace : op = .amend id
  · subst inPlace
    rcases s.amend_cases id with unknown | ⟨status, refused⟩ | ⟨d', stored', edge, -⟩
    · exact ⟨_, by simp only [perform, finish, unknown]; rfl⟩
    · exact ⟨_, by simp only [perform, finish, refused]; rfl⟩
    · rw [stored] at stored'
      cases stored'
      exact absurd amended (DeclarationStatus.ne_amended_of_leadsTo edge)
  · rcases perform_in_place_cases named acting inPlace with
      ⟨e, store, refused, -⟩ | ⟨d', d'', answer, stored', move, -⟩
    · exact ⟨e, by rw [refused]⟩
    · rw [stored] at stored'
      cases stored'
      exact absurd amended move.status_ne_amended

/-- Storing a declaration under the next number leaves those stored before. -/
theorem find?_hold_of_stored (numbered : s.store.IsNumbered)
    (stored : s.store.declarations.find? id = some d) (store : DeclarationStore)
    (new : Declaration) (number : new.id = s.store.nextId) :
    (store.hold new).declarations.find? id = store.declarations.find? id := by
  rw [DeclarationStore.declarations_hold]
  refine OrderedMap.find?_insert_of_ne _ _ ?_
  rintro rfl
  rw [number, numbered.find?_nextId] at stored
  cases stored

/-- What a step in place makes of a stored declaration: nothing, or a move. -/
theorem exists_successor_in_place {id' : DeclarationId} (named : op.subject? = some id')
    (acting : op.isReading = false) (inPlace : op ≠ .amend id')
    (stored : s.store.declarations.find? id = some d) :
    ∃ d', (s.perform op).1.store.declarations.find? id = some d' ∧
      (d' = d ∨ d.Move id op d') := by
  rcases perform_in_place_cases named acting inPlace with
    ⟨e, store, refused, alike⟩ | ⟨d₁, d₂, answer, stored', move, moved⟩
  · rw [refused]
    exact ⟨d, alike.declarations_eq ▸ stored, .inl rfl⟩
  · rw [moved]
    by_cases here : id' = id
    · subst here
      rw [stored] at stored'
      cases stored'
      exact ⟨d₂, DeclarationStore.find?_replace_self _ _ _, .inr move⟩
    · exact ⟨d, (DeclarationStore.find?_replace_of_ne _ _ here).trans stored, .inl rfl⟩

/-- An amendment closes a stored declaration, or leaves it as it is. -/
theorem exists_successor_amend (numbered : s.store.IsNumbered)
    (stored : s.store.declarations.find? id = some d) (id' : DeclarationId) :
    ∃ d', (s.amend id').1.store.declarations.find? id = some d' ∧
      (d' = d ∨ d.Move id (.amend id') d') := by
  rcases s.amend_cases id' with unknown | ⟨status, refused⟩ | ⟨d₁, stored', edge, closed⟩
  · rw [unknown]
    exact ⟨d, stored, .inl rfl⟩
  · rw [refused]
    exact ⟨d, stored, .inl rfl⟩
  · rw [closed]
    -- The amendment has a number of its own.
    have kept := find?_hold_of_stored numbered stored
      (s.store.allocate.replace id' { d₁ with status := .amended })
      (.amendment s.store.nextId d₁) rfl
    by_cases here : id' = id
    · subst here
      rw [stored] at stored'
      cases stored'
      exact ⟨_, kept.trans (DeclarationStore.find?_replace_self _ _ _),
        .inr (.advanced _ .amended d.calculation edge fun _ => rfl)⟩
    · have elsewhere := DeclarationStore.find?_replace_of_ne s.store.allocate
        { d₁ with status := .amended } here
      exact ⟨d, kept.trans (elsewhere.trans stored), .inl rfl⟩

/-- What any operation makes of a stored declaration: nothing, or a move. -/
theorem exists_successor (numbered : s.store.IsNumbered)
    (stored : s.store.declarations.find? id = some d) (op : FilingOperation) :
    ∃ d', (s.perform op).1.store.declarations.find? id = some d' ∧
      (d' = d ∨ d.Move id op d') := by
  cases op with
  | get | lookup => exact ⟨d, stored, .inl rfl⟩
  | preview id' =>
    have alike := (DeclarationStore.alike_of_readsOnly (readsOnly_previewStep s.tables) s.store id').1
    exact ⟨d, alike.declarations_eq ▸ stored, .inl rfl⟩
  | create new =>
    refine ⟨d, ?_, .inl rfl⟩
    show (s.create new).1.store.declarations.find? id = some d
    cases found : s.store.live.find? new.filingKey with
    | some taken =>
      rw [create_of_find?_eq_some found]
      exact stored
    | none =>
      rw [create_of_find?_eq_none found]
      exact (find?_hold_of_stored numbered stored _ _ rfl).trans stored
  | amend id' => exact exists_successor_amend numbered stored id'
  | edit | validate | submit | record => exact exists_successor_in_place rfl rfl nofun stored
  | reload definitions faults policy =>
    refine ⟨d, ?_, .inl rfl⟩
    simp only [perform, finish, reload]
    split <;> exact stored
  | reloadFrom fetched policy =>
    refine ⟨d, ?_, .inl rfl⟩
    simp only [perform, finish, reloadFrom]
    split <;> exact stored

/-! ### What a run makes of a declaration -/

/-- A declaration stored at a moment of a run is stored at every later one, and continues itself. -/
theorem exists_continuation (tables : RateTableSet) {earlier ops : List FilingOperation}
    (moment : earlier <+: ops)
    (stored : ((start tables).after earlier).store.declarations.find? id = some d) :
    ∃ d', ((start tables).after ops).store.declarations.find? id = some d' ∧ d.Continues d' := by
  obtain ⟨later, rfl⟩ := moment
  -- The run goes on one operation at a time after the moment.
  induction later using List.reverseRecOn with
  | nil =>
    rw [List.append_nil]
    exact ⟨d, stored, .refl d⟩
  | append_singleton later op ih =>
    obtain ⟨d', stored', continues⟩ := ih
    rw [← List.append_assoc, after_concat]
    have numbered := (isIndexed_after tables (earlier ++ later)).toIsNumbered
    obtain ⟨d'', stored'', rfl | move⟩ := exists_successor numbered stored' op
    · exact ⟨d'', stored'', continues⟩
    · exact ⟨d'', stored'', continues.trans move.continues⟩

/-- The course of a declaration from any moment of a run to any later one. It is still stored, with
its tax year, category, identity assertion, link to what it amends and filing key. When it was
submitted by the earlier moment it has the contents and the calculation of that moment. The next
operation, whichever it is, leaves its status, takes it along an edge, or takes it from validated
back to draft by an edit. When it was amended by the earlier moment it still is, and every
operation on it but reading it and previewing its calculation fails. -/
theorem history_of_run (tables : RateTableSet) {earlier ops : List FilingOperation}
    (moment : earlier <+: ops) {id : DeclarationId} {d : Declaration}
    (stored : ((start tables).after earlier).store.declarations.find? id = some d) :
    let s := (start tables).after ops
    ∃ d', s.store.declarations.find? id = some d' ∧
      (d'.taxYear = d.taxYear ∧ d'.category = d.category ∧ d'.identity = d.identity ∧
        d'.amends = d.amends ∧ d'.filingKey = d.filingKey) ∧
      (d.isEditable = false → d'.content = d.content ∧ d'.calculation = d.calculation) ∧
      (∀ op, ∃ d'', (s.perform op).1.store.declarations.find? id = some d'' ∧
        (d''.status = d'.status ∨ d'.status.leadsTo d''.status = true ∨
          d'.status = .validated ∧ d''.status = .draft ∧ ∃ change, op = .edit id change)) ∧
      (d.status = .amended → d'.status = .amended ∧
        ∀ op, op.subject? = some id → op ≠ .get id → op ≠ .preview id →
          ∃ e, (s.perform op).2 = .error e) := by
  intro s
  obtain ⟨d', stored', continues⟩ := exists_continuation tables moment stored
  refine ⟨d', stored', ?_, fun locked => ?_, fun op => ?_, fun amended => ?_⟩
  · exact ⟨continues.taxYear_eq, continues.category_eq, continues.identity_eq,
      continues.amends_eq, continues.filingKey_eq⟩
  · obtain ⟨contents, calculation, -⟩ := continues.locked locked
    exact ⟨contents, calculation⟩
  · have numbered := (isIndexed_after tables ops).toIsNumbered
    obtain ⟨d'', stored'', rfl | move⟩ := exists_successor numbered stored' op
    · exact ⟨d'', stored'', .inl rfl⟩
    · exact ⟨d'', stored'', move.status_step⟩
  · have same := continues.amended amended
    subst same
    refine ⟨amended, fun op named unread unpreviewed => ?_⟩
    exact perform_error_of_amended stored' amended named
      (FilingOperation.acts_of_subject? named unread unpreviewed)

/-- The first declaration of the sample run is approved by its eighth operation. At the end of the
run it is amended, with the calculation of that moment, and cannot be edited. -/
theorem history_of_sampleRun :
    ∃ d d', ((start .empty).after (sampleRun.take 8)).store.declarations.find? ⟨1⟩ = some d ∧
      d.status = .approved ∧
      ((start .empty).after sampleRun).store.declarations.find? ⟨1⟩ = some d' ∧
      d'.content = d.content ∧ d'.calculation = d.calculation := by
  have found : (((start .empty).after (sampleRun.take 8)).store.declarations.find? ⟨1⟩).map
      (·.status) = some .approved := by
    decide +kernel
  obtain ⟨d, stored, approved⟩ := Option.map_eq_some_iff.1 found
  obtain ⟨d', stored', -, locked, -⟩ :=
    history_of_run .empty (List.take_prefix 8 sampleRun) stored
  obtain ⟨contents, calculation⟩ := locked (by rw [Declaration.isEditable, approved]; rfl)
  exact ⟨d, d', stored, approved, stored', contents, calculation⟩

end FilingService

end IncomeTax
