import IncomeTax.Proofs.Filing.Run

/-!
# What an operation leaves alone

An operation that fails leaves the tables, the stored declarations and the index as they were. That
is no matter of the store, which keeps whatever a step leaves: every step checks before it writes. A
trace stays all the same. A number may be used up, and an overflow abandons the lock of the
declaration whose step it breaks off. Neither is in the way of what follows: the next operation
answers as it would have answered without the failure, the number it gives out apart, and so does
every later run in which numbers cannot differ. An operation that only reads changes nothing, unless
an overflow breaks it off, and a step in place revises the declaration it names and leaves every
other one alone.

## Main definitions

* `FilingOperation.subject?`, `isReading`, `isNumbering` — what an operation is about
* `FilingAnswer.withoutNumber` — an answer that does not show which number was given out
* `FilingService.Undisturbed` — a state with the contents of another
* `FilingService.Alike` — two states that differ in abandoned locks at most
* `FilingService.answers` — what a run answers

## Main results

* `FilingService.undisturbed_of_error` — a failed operation leaves the state undisturbed
* `FilingService.Undisturbed.answer_eq`, `Undisturbed.answers_eq` — an undisturbed state answers like
  the one before
* `FilingService.exists_revision` — a step in place makes nothing but a revision
* `FilingService.Alike.answers_eq` — a run never notices an abandoned lock
* `FilingService.perform_frame` — what an operation leaves alone, by its outcome
-/

namespace IncomeTax

/-- The declaration that an operation names. -/
def FilingOperation.subject? : FilingOperation → Option DeclarationId
  | .get id | .edit id _ | .preview id | .validate id | .submit id | .record id _ | .amend id =>
    some id
  | .create _ | .lookup _ | .reload .. | .reloadFrom .. => none

/-- Whether an operation only answers a question. -/
def FilingOperation.isReading : FilingOperation → Bool
  | .get _ | .preview _ | .lookup _ => true
  | _ => false

/-- Whether an operation may give out a number. -/
def FilingOperation.isNumbering : FilingOperation → Bool
  | .create _ | .amend _ => true
  | _ => false

/-- The answer without the number that was given out. -/
def FilingAnswer.withoutNumber : FilingAnswer → FilingAnswer
  | .number _ => .done
  | answer => answer

namespace FilingService

variable {s s' : FilingService} {op : FilingOperation}

/-- The state has the contents of an earlier one, though numbers may have been used up and locks
abandoned since. -/
structure Undisturbed (s s' : FilingService) : Prop where
  tables_eq : s'.tables = s.tables
  declarations_eq : s'.store.declarations = s.store.declarations
  live_eq : s'.store.live = s.store.live
  lastId_le : s.store.lastId ≤ s'.store.lastId

theorem Undisturbed.refl (s : FilingService) : Undisturbed s s := ⟨rfl, rfl, rfl, Nat.le_refl _⟩

theorem undisturbed_allocate (s : FilingService) :
    Undisturbed s { s with store := s.store.allocate } :=
  ⟨rfl, rfl, rfl, Nat.le_succ _⟩

/-- Two states that differ in abandoned locks at most. -/
structure Alike (s s' : FilingService) : Prop where
  tables_eq : s'.tables = s.tables
  store : s.store.Alike s'.store

theorem Alike.undisturbed (alike : Alike s s') : Undisturbed s s' :=
  ⟨alike.tables_eq, alike.store.declarations_eq, alike.store.live_eq,
    Nat.le_of_eq alike.store.lastId_eq.symm⟩

theorem Undisturbed.alike (undisturbed : Undisturbed s s')
    (unused : s'.store.lastId = s.store.lastId) : Alike s s' :=
  ⟨undisturbed.tables_eq, ⟨unused, undisturbed.declarations_eq, undisturbed.live_eq⟩⟩

/-! ### A failed operation leaves the state undisturbed -/

/-- An operation fails when what it wraps up does. -/
theorem finish_eq_error {ε α : Type} {wrapError : ε → OperationError} {wrap : α → FilingAnswer}
    {outcome : FilingService × Except ε α} {e : OperationError}
    (failed : (finish wrapError wrap outcome).2 = .error e) :
    ∃ e', outcome.2 = .error e' ∧ e = wrapError e' := by
  obtain ⟨state, answer⟩ := outcome
  cases answer with
  | error e' =>
    cases failed
    exact ⟨e', rfl, rfl⟩
  | ok a => cases failed

theorem undisturbed_of_step_error {id : DeclarationId}
    {step : InPlace FilingError Declaration DeclarationStatus} {e : OperationError}
    (found : op.step? s.tables = some (id, step)) (failed : (s.perform op).2 = .error e) :
    Undisturbed s (s.perform op).1 ∧
      (e ≠ .filing .overflow → (s.perform op).1.store.slots = s.store.slots) := by
  rcases perform_step_cases found with
    ⟨e', store, refused, alike, same⟩ | ⟨d, d', status, -, -, replaced⟩
  · rw [refused] at failed ⊢
    cases failed
    exact ⟨Alike.undisturbed ⟨rfl, alike⟩, fun answered => congrArg _ (same answered)⟩
  · rw [replaced] at failed
    cases failed

theorem undisturbed_of_preview_error {id : DeclarationId} {e : FilingError}
    (failed : (s.preview id).2 = .error e) :
    Undisturbed s (s.preview id).1 ∧
      (e ≠ .overflow → (s.preview id).1.store.slots = s.store.slots) := by
  obtain ⟨alike, same⟩ :=
    DeclarationStore.alike_of_readsOnly (readsOnly_previewStep s.tables) s.store id
  refine ⟨Alike.undisturbed ⟨rfl, alike⟩, fun answered => congrArg _ (same fun overflow => ?_)⟩
  cases failed.symm.trans overflow
  exact answered rfl

theorem undisturbed_of_create_error {new : NewDeclaration} {e : FilingError}
    (failed : (s.create new).2 = .error e) :
    Undisturbed s (s.create new).1 ∧ (s.create new).1.store.slots = s.store.slots := by
  cases found : s.store.live.find? new.filingKey with
  | some id =>
    rw [create_of_find?_eq_some found]
    exact ⟨undisturbed_allocate s, rfl⟩
  | none =>
    rw [create_of_find?_eq_none found] at failed
    cases failed

theorem undisturbed_of_amend_error {id : DeclarationId} {e : FilingError}
    (failed : (s.amend id).2 = .error e) :
    Undisturbed s (s.amend id).1 ∧ (s.amend id).1.store.slots = s.store.slots := by
  rcases s.amend_cases id with unknown | ⟨status, refused⟩ | ⟨d, -, -, closed⟩
  · rw [unknown]
    exact ⟨.refl s, rfl⟩
  · rw [refused]
    exact ⟨undisturbed_allocate s, rfl⟩
  · rw [closed] at failed
    cases failed

/-- Whatever stops an operation, the state is undisturbed, and unless it is an overflow all locks
are as they were. -/
theorem undisturbed_of_error {e : OperationError} (failed : (s.perform op).2 = .error e) :
    Undisturbed s (s.perform op).1 ∧
      (e ≠ .filing .overflow → (s.perform op).1.store.slots = s.store.slots) := by
  cases op with
  | get | lookup => exact ⟨.refl s, fun _ => rfl⟩
  | create new =>
    obtain ⟨e', failed, -⟩ := finish_eq_error failed
    obtain ⟨undisturbed, slots⟩ := undisturbed_of_create_error failed
    exact ⟨undisturbed, fun _ => slots⟩
  | amend id =>
    obtain ⟨e', failed, -⟩ := finish_eq_error failed
    obtain ⟨undisturbed, slots⟩ := undisturbed_of_amend_error failed
    exact ⟨undisturbed, fun _ => slots⟩
  | preview id =>
    obtain ⟨e', stopped, rfl⟩ := finish_eq_error failed
    obtain ⟨undisturbed, slots⟩ := undisturbed_of_preview_error stopped
    exact ⟨undisturbed, fun answered => slots fun overflow => answered (overflow ▸ rfl)⟩
  | edit | validate | submit | record => exact undisturbed_of_step_error rfl failed
  | reload definitions faults policy =>
    obtain ⟨e', failed, -⟩ := finish_eq_error failed
    simp only [perform, finish, reload] at failed ⊢
    -- A set that was built would have been the answer.
    split at failed
    · cases failed
    · exact ⟨.refl s, fun _ => rfl⟩
  | reloadFrom fetched policy =>
    obtain ⟨e', failed, -⟩ := finish_eq_error failed
    simp only [perform, finish, reloadFrom] at failed ⊢
    split at failed
    · cases failed
    · exact ⟨.refl s, fun _ => rfl⟩

/-! ### An undisturbed state answers as before -/

/-- What a run of operations answers. -/
def answers (s : FilingService) : List FilingOperation → List (Except OperationError FilingAnswer)
  | [] => []
  | op :: ops => (s.perform op).2 :: (s.perform op).1.answers ops

/-- Two answers of the store that agree but for the number they give out. -/
theorem finish_number_congr {first second : FilingService × Except FilingError DeclarationId}
    (alike : first.2.map (fun _ => ()) = second.2.map (fun _ => ())) :
    (finish .filing .number first).2.map FilingAnswer.withoutNumber =
      (finish .filing .number second).2.map FilingAnswer.withoutNumber := by
  obtain ⟨state, answer⟩ := first
  obtain ⟨state', answer'⟩ := second
  cases answer <;> cases answer' <;> cases alike <;> rfl

theorem finish_congr {ε α : Type} {wrapError : ε → OperationError} {wrap : α → FilingAnswer}
    {first second : FilingService × Except ε α} (alike : first.2 = second.2) :
    (finish wrapError wrap first).2 = (finish wrapError wrap second).2 := by
  unfold finish
  rw [alike]

theorem get_congr (same : s'.store.declarations = s.store.declarations) (id : DeclarationId) :
    s'.get id = s.get id :=
  congrArg FilingError.ofState (DeclarationStore.get_congr same id)

namespace Undisturbed

variable (undisturbed : Undisturbed s s')

include undisturbed

theorem create_alike (new : NewDeclaration) :
    (s'.create new).2.map (fun _ => ()) = (s.create new).2.map (fun _ => ()) := by
  cases found : s.store.live.find? new.filingKey with
  | some id =>
    have found' : s'.store.live.find? new.filingKey = some id := undisturbed.live_eq ▸ found
    rw [create_of_find?_eq_some found, create_of_find?_eq_some found']
  | none =>
    have found' : s'.store.live.find? new.filingKey = none := undisturbed.live_eq ▸ found
    rw [create_of_find?_eq_none found, create_of_find?_eq_none found']
    rfl

/-- A step in place answers as before, and what it leaves is undisturbed. -/
theorem withDeclaration {α : Type} {wrap : α → FilingAnswer} (id : DeclarationId)
    (step : InPlace FilingError Declaration α) :
    (finish .filing wrap (s'.withStore (s'.store.withDeclaration id step))).2 =
        (finish .filing wrap (s.withStore (s.store.withDeclaration id step))).2 ∧
      Undisturbed (finish .filing wrap (s.withStore (s.store.withDeclaration id step))).1
        (finish .filing wrap (s'.withStore (s'.store.withDeclaration id step))).1 := by
  obtain ⟨answer, declarations⟩ :=
    DeclarationStore.withDeclaration_congr undisturbed.declarations_eq id step
  obtain ⟨live, lastId, -⟩ := DeclarationStore.withDeclaration_frame s.store id step
  obtain ⟨live', lastId', -⟩ := DeclarationStore.withDeclaration_frame s'.store id step
  refine ⟨finish_congr answer, undisturbed.tables_eq, declarations, ?_, ?_⟩
  · exact (live'.trans undisturbed.live_eq).trans live.symm
  · exact (lastId.trans_le undisturbed.lastId_le).trans_eq lastId'.symm

/-- An operation that gives out no number answers as before, and what it leaves is undisturbed. -/
theorem perform (unnumbered : op.isNumbering = false) :
    (s'.perform op).2 = (s.perform op).2 ∧ Undisturbed (s.perform op).1 (s'.perform op).1 := by
  have tables := undisturbed.tables_eq
  cases op with
  | get id => exact ⟨finish_congr (get_congr undisturbed.declarations_eq id), undisturbed⟩
  | edit id | submit id | record id => exact undisturbed.withDeclaration id _
  | preview id | validate id =>
    simp only [FilingService.perform, preview, validate, tables]
    exact undisturbed.withDeclaration id _
  | lookup key => exact ⟨finish_congr (congrArg (·.lookup key) tables), undisturbed⟩
  | reload definitions faults policy =>
    -- A reload reads nothing of the state.
    simp only [FilingService.perform, finish, reload]
    split
    · exact ⟨rfl, rfl, undisturbed.declarations_eq, undisturbed.live_eq, undisturbed.lastId_le⟩
    · exact ⟨rfl, undisturbed⟩
  | reloadFrom fetched policy =>
    simp only [FilingService.perform, finish, reloadFrom]
    split
    · exact ⟨rfl, rfl, undisturbed.declarations_eq, undisturbed.live_eq, undisturbed.lastId_le⟩
    · exact ⟨rfl, undisturbed⟩
  | create | amend => cases unnumbered

theorem answer_eq (op : FilingOperation) :
    (s'.perform op).2.map FilingAnswer.withoutNumber =
      (s.perform op).2.map FilingAnswer.withoutNumber := by
  cases numbering : op.isNumbering with
  | false => rw [(undisturbed.perform numbering).1]
  | true =>
    cases op with
    | create new => exact finish_number_congr (undisturbed.create_alike new)
    | amend id =>
      exact finish_number_congr (DeclarationStore.amend_snd_congr undisturbed.declarations_eq id)
    | get | edit | preview | validate | submit | record | lookup | reload | reloadFrom =>
      cases numbering

/-- A run in which no number is given out answers as before. -/
theorem answers_eq {ops : List FilingOperation}
    (unnumbered : ∀ op ∈ ops, op.isNumbering = false) : s'.answers ops = s.answers ops := by
  -- What the operations leave differs from one state to the other, though it stays undisturbed.
  induction ops generalizing s s' with
  | nil => rfl
  | cons op ops ih =>
    obtain ⟨first, later⟩ := List.forall_mem_cons.1 unnumbered
    obtain ⟨answer, next⟩ := undisturbed.perform first
    rw [answers, answers, answer, ih next later]

end Undisturbed

/-! ### What is left alone -/

/-- An operation that only reads, and is not broken off by an overflow, changes nothing. -/
theorem perform_of_isReading (reading : op.isReading = true)
    (answered : (s.perform op).2 ≠ .error (.filing .overflow)) : (s.perform op).1 = s := by
  cases op with
  | get | lookup => rfl
  | preview id =>
    have reads := readsOnly_previewStep s.tables
    have same : (s.store.withDeclaration id (previewStep s.tables)).1 = s.store := by
      refine (DeclarationStore.alike_of_readsOnly reads s.store id).2 fun overflow => answered ?_
      simp only [perform, preview, withStore, finish, overflow]
      rfl
    exact congrArg (FilingService.mk s.tables) same
  | create | edit | validate | submit | record | amend | reload | reloadFrom => cases reading

/-- A step in place that names a declaration writes nothing but that declaration. -/
theorem perform_in_place {id : DeclarationId} (named : op.subject? = some id)
    (inPlace : op ≠ .amend id) :
    (s.perform op).1.tables = s.tables ∧ (s.perform op).1.store.live = s.store.live ∧
      (s.perform op).1.store.lastId = s.store.lastId ∧
      ∀ id', id' ≠ id → (s.perform op).1.store.slots.find? id' = s.store.slots.find? id' := by
  cases op with
  | get => exact ⟨rfl, rfl, rfl, fun _ _ => rfl⟩
  | preview | edit | validate | submit | record =>
    cases named
    exact ⟨rfl, DeclarationStore.withDeclaration_frame _ _ _⟩
  | amend =>
    cases named
    exact absurd rfl inPlace
  | create | lookup | reload | reloadFrom => cases named

/-- A step in place makes nothing of the declaration it names, or a revision. -/
theorem exists_revision_of_step {id : DeclarationId} {d : Declaration}
    {step : InPlace FilingError Declaration DeclarationStatus}
    (found : op.step? s.tables = some (id, step)) (stored : s.store.declarations.find? id = some d) :
    ∃ d', (s.perform op).1.store.declarations.find? id = some d' ∧
      (d' = d ∨ d.Revision s.tables d') := by
  rcases perform_step_cases found with
    ⟨e, store, refused, alike, -⟩ | ⟨d₁, d', status, stored', stepped, replaced⟩
  · rw [refused]
    exact ⟨d, alike.declarations_eq ▸ stored, .inl rfl⟩
  · cases stored.symm.trans stored'
    rw [replaced]
    exact ⟨d', DeclarationStore.find?_replace_self _ _ _,
      .inr (FilingOperation.revision_of_step? found stepped)⟩

theorem exists_revision {id : DeclarationId} {d : Declaration} (named : op.subject? = some id)
    (inPlace : op ≠ .amend id) (stored : s.store.declarations.find? id = some d) :
    ∃ d', (s.perform op).1.store.declarations.find? id = some d' ∧
      (d' = d ∨ d.Revision s.tables d') := by
  cases op with
  | get => exact ⟨d, stored, .inl rfl⟩
  | preview =>
    cases named
    have alike := (DeclarationStore.alike_of_readsOnly (readsOnly_previewStep s.tables) s.store id).1
    exact ⟨d, alike.declarations_eq ▸ stored, .inl rfl⟩
  | edit | validate | submit | record =>
    cases named
    exact exists_revision_of_step rfl stored
  | amend =>
    cases named
    exact absurd rfl inPlace
  | create | lookup | reload | reloadFrom => cases named

/-! ### Abandoned locks are never noticed -/

/-- Only a draft and an amendment are given numbers. -/
theorem lastId_perform (unnumbered : op.isNumbering = false) :
    (s.perform op).1.store.lastId = s.store.lastId := by
  cases op with
  | get | lookup => rfl
  | edit | preview | validate | submit | record =>
    exact (DeclarationStore.withDeclaration_frame _ _ _).2.1
  | reload definitions faults policy =>
    simp only [perform, finish, reload]
    split <;> rfl
  | reloadFrom fetched policy =>
    simp only [perform, finish, reloadFrom]
    split <;> rfl
  | create | amend => cases unnumbered

namespace Alike

/-- An operation answers alike in states that are alike, and leaves states that are alike. -/
theorem perform (alike : Alike s s') (op : FilingOperation) :
    (s'.perform op).2 = (s.perform op).2 ∧ Alike (s.perform op).1 (s'.perform op).1 := by
  cases numbering : op.isNumbering with
  | false =>
    obtain ⟨answer, undisturbed⟩ := alike.undisturbed.perform numbering
    refine ⟨answer, undisturbed.alike ?_⟩
    rw [lastId_perform numbering, lastId_perform numbering, alike.store.lastId_eq]
  | true =>
    cases op with
    | create new =>
      obtain ⟨answer, store⟩ := alike.store.create new
      exact ⟨finish_congr (congrArg FilingError.ofState answer), alike.tables_eq, store⟩
    | amend id =>
      obtain ⟨answer, store⟩ := alike.store.amend id
      exact ⟨finish_congr answer, alike.tables_eq, store⟩
    | get | edit | preview | validate | submit | record | lookup | reload | reloadFrom =>
      cases numbering

/-- A run answers alike in states that are alike. -/
theorem answers_eq (alike : Alike s s') (ops : List FilingOperation) :
    s'.answers ops = s.answers ops := by
  induction ops generalizing s s' with
  | nil => rfl
  | cons op ops ih =>
    obtain ⟨answer, next⟩ := alike.perform op
    rw [answers, answers, answer, ih next]

end Alike

/-- Whatever the state and whatever an operation is asked: if it fails, the tables, the declarations
and the index are those from before, and no number goes back. Only an overflow abandons a lock, and
that is never noticed. Every next operation answers as it would have answered at once, the number it
gives out apart. So does every later run throughout, unless a number was used up and the run gives
out others. An operation that only reads changes nothing, unless an overflow breaks it off. An
operation that names a declaration, amendments apart, changes neither the tables nor the index nor
the last number nor any other declaration or lock, and makes of the one it names nothing but a
revision. -/
theorem perform_frame (s : FilingService) (op : FilingOperation) :
    (∀ e, (s.perform op).2 = .error e →
      Undisturbed s (s.perform op).1 ∧
      (e ≠ .filing .overflow → (s.perform op).1.store.slots = s.store.slots) ∧
      (∀ next, ((s.perform op).1.perform next).2.map FilingAnswer.withoutNumber =
        (s.perform next).2.map FilingAnswer.withoutNumber) ∧
      ∀ ops, ((s.perform op).1.store.lastId = s.store.lastId ∨
          ∀ later ∈ ops, later.isNumbering = false) →
        (s.perform op).1.answers ops = s.answers ops) ∧
    (op.isReading = true → (s.perform op).2 ≠ .error (.filing .overflow) → (s.perform op).1 = s) ∧
    ∀ id, op.subject? = some id → op ≠ .amend id →
      (s.perform op).1.tables = s.tables ∧ (s.perform op).1.store.live = s.store.live ∧
      (s.perform op).1.store.lastId = s.store.lastId ∧
      (∀ id', id' ≠ id → (s.perform op).1.store.slots.find? id' = s.store.slots.find? id') ∧
      ∀ d, s.store.declarations.find? id = some d →
        ∃ d', (s.perform op).1.store.declarations.find? id = some d' ∧
          (d' = d ∨ d.Revision s.tables d') := by
  refine ⟨fun e failed => ?_, fun reading answered => ?_, fun id named inPlace => ?_⟩
  · obtain ⟨undisturbed, slots⟩ := undisturbed_of_error failed
    refine ⟨undisturbed, slots, undisturbed.answer_eq, ?_⟩
    rintro ops (unused | unnumbered)
    · exact (undisturbed.alike unused).answers_eq ops
    · exact undisturbed.answers_eq unnumbered
  · exact perform_of_isReading reading answered
  · obtain ⟨tables, live, lastId, others⟩ := perform_in_place named inPlace
    exact ⟨tables, live, lastId, others, fun d => exists_revision named inPlace⟩

/-- After the sample run the first declaration is amended, so amending it again fails. The attempt
uses up a number; the next draft is refused as it would have been without it, and the amendment can
be validated and submitted all the same. Then an edit of the amendment is broken off halfway, which
abandons its lock. What the edit had written by then is lost, and every run answers as it would have
answered before. -/
theorem perform_frame_of_sampleRun :
    let s := (start .empty).after sampleRun
    let s' := (s.perform (.amend ⟨1⟩)).1
    let brokenOff : ContentEdit := do
      modify fun content => { content with income := [] }
      failure
    let s'' := (s'.perform (.edit ⟨2⟩ brokenOff)).1
    s.store.lastId = 2 ∧ s'.store.lastId = 3 ∧ Undisturbed s s' ∧
      (s'.perform (.create .sample2024)).2.map FilingAnswer.withoutNumber =
        (s.perform (.create .sample2024)).2.map FilingAnswer.withoutNumber ∧
      s'.answers [.validate ⟨2⟩, .submit ⟨2⟩] = s.answers [.validate ⟨2⟩, .submit ⟨2⟩] ∧
      s''.store.isAbandoned ⟨2⟩ = true ∧ Undisturbed s' s'' ∧
      ∀ ops, s''.answers ops = s'.answers ops := by
  intro s s' brokenOff s''
  have refused : (s.amend ⟨1⟩).2 = .error (.state (.invalidTransition .amended .amended)) := by
    decide +kernel
  have failed : (s.perform (.amend ⟨1⟩)).2 =
      .error (.filing (.state (.invalidTransition .amended .amended))) := by
    simp only [perform, finish, refused]
    rfl
  have overflow : (s'.edit ⟨2⟩ brokenOff).2 = .error .overflow := by
    decide +kernel
  have failed' : (s'.perform (.edit ⟨2⟩ brokenOff)).2 = .error (.filing .overflow) := by
    simp only [perform, finish, overflow]
    rfl
  obtain ⟨undisturbed, -, next, later⟩ := (perform_frame s (.amend ⟨1⟩)).1 _ failed
  obtain ⟨undisturbed', -, -, later'⟩ := (perform_frame s' (.edit ⟨2⟩ brokenOff)).1 _ failed'
  have unused : s''.store.lastId = s'.store.lastId := by decide +kernel
  exact ⟨by decide +kernel, by decide +kernel, undisturbed, next (.create .sample2024),
    later _ (.inr (by simp [FilingOperation.isNumbering])), by decide +kernel, undisturbed',
    fun ops => later' ops (.inl unused)⟩

end FilingService

end IncomeTax
