import IncomeTax.Proofs.Filing.Step
import IncomeTax.Proofs.OrderedMap

/-!
# Stores and their locks

What a store answers is decided by the declarations behind its locks. Whether a lock was abandoned
shows nowhere, since an abandoned lock is entered like any other one. A step that leaves no trace
when it fails leaves the store as it is, up to the lock that an overflow abandons, and a step that
succeeds replaces the declaration it was run on and nothing else.

## Main definitions

* `DeclarationStore.Alike` — two stores that differ in abandoned locks at most
* `DeclarationStore.replace`, `replaceByAmendment` — what the steps that succeed make of a store

## Main results

* `DeclarationStore.withDeclaration_cases` — the outcome of a step in a store
* `DeclarationStore.amend_of_edge`, `amend_of_no_edge` — the outcome of an amendment
* `DeclarationStore.withDeclaration_congr`, `Alike.create`, `Alike.amend` — abandoned locks are never
  noticed
-/

namespace IncomeTax

namespace Slot

variable {α : Type} {slot : Slot} {step : InPlace FilingError Declaration α} {d : Declaration}

/-- An abandoned lock is entered like any other one. -/
@[simp] theorem enter_eq (slot : Slot) : slot.enter = slot.declaration := by
  unfold enter lock
  cases slot.abandoned <;> rfl

/-- A step that comes to an answer gives the lock back as it was. -/
theorem run_of_answer {answer : Except FilingError α}
    (stepped : step.applyTo slot.declaration = (answer, d)) (answered : answer ≠ .error .overflow) :
    slot.run step = (⟨d, slot.abandoned⟩, answer) := by
  rw [run, enter_eq, stepped]
  split
  -- The alternative of an overflow, which is not the answer.
  next same =>
    cases same
    exact absurd rfl answered
  next same =>
    cases same
    rfl

/-- A step that an overflow breaks off abandons the lock. -/
theorem run_of_overflow (stepped : step.applyTo slot.declaration = (.error .overflow, d)) :
    slot.run step = (⟨d, true⟩, .error .overflow) := by
  rw [run, enter_eq, stepped]

end Slot

namespace DeclarationStore

variable {store store' : DeclarationStore} {id id' : DeclarationId} {d d' e : Declaration}

/-! ### The declarations behind the locks -/

/-- The store with another slot at a number. -/
def put (store : DeclarationStore) (id : DeclarationId) (slot : Slot) : DeclarationStore :=
  { store with slots := store.slots.insert id slot }

theorem find?_declarations (store : DeclarationStore) (id : DeclarationId) :
    store.declarations.find? id = (store.slots.find? id).map (·.declaration) :=
  OrderedMap.find?_mapValues _ _ _

theorem exists_slot_of_stored (stored : store.declarations.find? id = some d) :
    ∃ abandoned, store.slots.find? id = some ⟨d, abandoned⟩ := by
  rw [find?_declarations] at stored
  obtain ⟨slot, found, rfl⟩ := Option.map_eq_some_iff.1 stored
  exact ⟨slot.abandoned, found⟩

theorem find?_slots_eq_none_iff :
    store.slots.find? id = none ↔ store.declarations.find? id = none := by
  rw [find?_declarations, Option.map_eq_none_iff]

theorem declarations_put (store : DeclarationStore) (id : DeclarationId) (slot : Slot) :
    (store.put id slot).declarations = store.declarations.insert id slot.declaration :=
  OrderedMap.mapValues_insert _ _ _ _

theorem declarations_hold (store : DeclarationStore) (d : Declaration) :
    (store.hold d).declarations = store.declarations.insert d.id d :=
  OrderedMap.mapValues_insert _ _ _ _

@[simp] theorem find?_hold_self (store : DeclarationStore) (d : Declaration) :
    (store.hold d).declarations.find? d.id = some d := by
  rw [declarations_hold, OrderedMap.find?_insert_self]

/-- What is found once a declaration is held: that one under its number, the others as before. -/
theorem find?_hold_eq_some_iff :
    (store.hold d).declarations.find? id = some e ↔
      (id = d.id ∧ e = d) ∨ (id ≠ d.id ∧ store.declarations.find? id = some e) := by
  rw [declarations_hold]
  exact OrderedMap.find?_insert_eq_some_iff

/-- Two stores that differ in abandoned locks at most. -/
structure Alike (store store' : DeclarationStore) : Prop where
  lastId_eq : store'.lastId = store.lastId
  declarations_eq : store'.declarations = store.declarations
  live_eq : store'.live = store.live

theorem Alike.refl (store : DeclarationStore) : store.Alike store := ⟨rfl, rfl, rfl⟩

/-- To abandon the lock of a declaration leaves a store that is alike. -/
theorem alike_put (stored : store.declarations.find? id = some d) (abandoned : Bool) :
    store.Alike (store.put id ⟨d, abandoned⟩) where
  lastId_eq := rfl
  declarations_eq := (declarations_put _ _ _).trans (OrderedMap.insert_of_find? stored)
  live_eq := rfl

/-! ### Replacing a declaration -/

/-- Whether the lock at a number was abandoned. -/
def isAbandoned (store : DeclarationStore) (id : DeclarationId) : Bool :=
  (store.slots.find? id).any (·.abandoned)

/-- The store with the declaration at a number replaced, behind the lock it has. -/
def replace (store : DeclarationStore) (id : DeclarationId) (d : Declaration) : DeclarationStore :=
  store.put id ⟨d, store.isAbandoned id⟩

theorem declarations_replace (store : DeclarationStore) (id : DeclarationId) (d : Declaration) :
    (store.replace id d).declarations = store.declarations.insert id d :=
  declarations_put _ _ _

@[simp] theorem find?_replace_self (store : DeclarationStore) (id : DeclarationId)
    (d : Declaration) : (store.replace id d).declarations.find? id = some d := by
  rw [declarations_replace, OrderedMap.find?_insert_self]

theorem find?_replace_of_ne (store : DeclarationStore) (d : Declaration) (other : id ≠ id') :
    (store.replace id d).declarations.find? id' = store.declarations.find? id' := by
  rw [declarations_replace, OrderedMap.find?_insert_of_ne _ _ other]

/-- What is found once a declaration is replaced: that one at its number, the others as before. -/
theorem find?_replace_eq_some_iff :
    (store.replace id d).declarations.find? id' = some e ↔
      (id' = id ∧ e = d) ∨ (id' ≠ id ∧ store.declarations.find? id' = some e) := by
  rw [declarations_replace]
  exact OrderedMap.find?_insert_eq_some_iff

/-- A declaration replaced by itself is as it was. -/
theorem replace_of_stored (stored : store.declarations.find? id = some d) :
    store.replace id d = store := by
  obtain ⟨abandoned, found⟩ := exists_slot_of_stored stored
  have same : store.slots.insert id ⟨d, abandoned⟩ = store.slots := OrderedMap.insert_of_find? found
  rw [replace, isAbandoned, found, put, Option.any_some, same]

/-- The store with a declaration closed and its amendment stored as the holder of the key. -/
def replaceByAmendment (store : DeclarationStore) (id : DeclarationId) (d : Declaration) :
    DeclarationStore :=
  (store.allocate.replace id { d with status := .amended }).hold
    (Declaration.amendment store.nextId d)

/-! ### Steps on a stored declaration -/

theorem get_of_stored (stored : store.declarations.find? id = some d) : store.get id = .ok d := by
  obtain ⟨abandoned, found⟩ := exists_slot_of_stored stored
  simp [get, slot, found, Except.map]

theorem get_of_unknown (unknown : store.declarations.find? id = none) :
    store.get id = .error (.unknownDeclaration id) := by
  simp [get, slot, find?_slots_eq_none_iff.2 unknown, Except.map]

section WithDeclaration

variable {α : Type} {step : InPlace FilingError Declaration α}

theorem withDeclaration_of_unknown (unknown : store.declarations.find? id = none) :
    store.withDeclaration id step = (store, .error (.state (.unknownDeclaration id))) := by
  simp [withDeclaration, slot, find?_slots_eq_none_iff.2 unknown]

/-- A step that comes to an answer replaces the declaration it was run on by what it leaves. -/
theorem withDeclaration_of_answer {answer : Except FilingError α}
    (stored : store.declarations.find? id = some d) (stepped : step.applyTo d = (answer, d'))
    (answered : answer ≠ .error .overflow) :
    store.withDeclaration id step = (store.replace id d', answer) := by
  obtain ⟨abandoned, found⟩ := exists_slot_of_stored stored
  have run : (Slot.mk d abandoned).run step = (⟨d', abandoned⟩, answer) :=
    Slot.run_of_answer stepped answered
  simp [withDeclaration, slot, found, run, replace, put, isAbandoned]

/-- So does a step that is broken off, and it abandons the lock. -/
theorem withDeclaration_of_overflow (stored : store.declarations.find? id = some d)
    (stepped : step.applyTo d = (.error .overflow, d')) :
    store.withDeclaration id step = (store.put id ⟨d', true⟩, .error .overflow) := by
  obtain ⟨abandoned, found⟩ := exists_slot_of_stored stored
  have run : (Slot.mk d abandoned).run step = (⟨d', true⟩, .error .overflow) :=
    Slot.run_of_overflow stepped
  simp [withDeclaration, slot, found, run, put]

/-- The answer is that of the step. -/
theorem withDeclaration_snd (step : InPlace FilingError Declaration α)
    (stored : store.declarations.find? id = some d) :
    (store.withDeclaration id step).2 = (step.applyTo d).1 := by
  rcases stepped : step.applyTo d with ⟨answer, d'⟩
  by_cases overflow : answer = .error .overflow
  · subst overflow
    rw [withDeclaration_of_overflow stored stepped]
  · rw [withDeclaration_of_answer stored stepped overflow]

/-- A step that leaves no trace when it fails leaves the store as it is then, up to the lock that an
overflow abandons. Any other outcome is that of the step on the declaration. -/
theorem withDeclaration_cases (atomic : step.IsAtomic) (store : DeclarationStore)
    (id : DeclarationId) :
    (∃ e store', store.withDeclaration id step = (store', .error e) ∧ store.Alike store' ∧
        (e ≠ .overflow → store' = store)) ∨
      ∃ d d' a, store.declarations.find? id = some d ∧ step.applyTo d = (.ok a, d') ∧
        store.withDeclaration id step = (store.replace id d', .ok a) := by
  cases stored : store.declarations.find? id with
  | none => exact .inl ⟨_, store, withDeclaration_of_unknown stored, .refl store, fun _ => rfl⟩
  | some d =>
    rcases stepped : step.applyTo d with ⟨e | a, d'⟩
    -- What the store keeps of a failed step is the declaration it was run on.
    · obtain rfl := atomic d e d' stepped
      by_cases overflow : e = .overflow
      · subst overflow
        exact .inl ⟨_, _, withDeclaration_of_overflow stored stepped, alike_put stored true,
          absurd rfl⟩
      · have refused := withDeclaration_of_answer stored stepped (by simpa using overflow)
        rw [replace_of_stored stored] at refused
        exact .inl ⟨e, store, refused, .refl store, fun _ => rfl⟩
    · exact .inr ⟨d, d', a, rfl, stepped, withDeclaration_of_answer stored stepped nofun⟩

/-- A step that only reads leaves the store as it is, up to the lock that an overflow abandons. -/
theorem alike_of_readsOnly (reads : step.ReadsOnly) (store : DeclarationStore)
    (id : DeclarationId) :
    store.Alike (store.withDeclaration id step).1 ∧
      ((store.withDeclaration id step).2 ≠ .error .overflow →
        (store.withDeclaration id step).1 = store) := by
  rcases withDeclaration_cases reads.isAtomic store id with
    ⟨e, store', failed, alike, same⟩ | ⟨d, d', a, stored, stepped, replaced⟩
  · rw [failed]
    exact ⟨alike, fun answered => same fun overflow => answered (overflow ▸ rfl)⟩
  · obtain rfl := reads.eq_of_applyTo stepped
    rw [replaced, replace_of_stored stored]
    exact ⟨.refl store, fun _ => rfl⟩

/-- What a step answers, and the declarations it leaves, depend on the declarations alone. -/
theorem withDeclaration_congr (same : store'.declarations = store.declarations)
    (id : DeclarationId) (step : InPlace FilingError Declaration α) :
    (store'.withDeclaration id step).2 = (store.withDeclaration id step).2 ∧
      (store'.withDeclaration id step).1.declarations =
        (store.withDeclaration id step).1.declarations := by
  cases stored : store.declarations.find? id with
  | none =>
    have stored' : store'.declarations.find? id = none := by rw [same, stored]
    rw [withDeclaration_of_unknown stored, withDeclaration_of_unknown stored']
    exact ⟨rfl, same⟩
  | some d =>
    have stored' : store'.declarations.find? id = some d := by rw [same, stored]
    rcases stepped : step.applyTo d with ⟨answer, d'⟩
    by_cases overflow : answer = .error .overflow
    · subst overflow
      rw [withDeclaration_of_overflow stored stepped, withDeclaration_of_overflow stored' stepped]
      exact ⟨rfl, by rw [declarations_put, declarations_put, same]⟩
    · rw [withDeclaration_of_answer stored stepped overflow,
        withDeclaration_of_answer stored' stepped overflow]
      exact ⟨rfl, by rw [declarations_replace, declarations_replace, same]⟩

/-- A step leaves the index, the last number and every other slot alone. -/
theorem withDeclaration_frame (store : DeclarationStore) (id : DeclarationId)
    (step : InPlace FilingError Declaration α) :
    (store.withDeclaration id step).1.live = store.live ∧
      (store.withDeclaration id step).1.lastId = store.lastId ∧
      ∀ id', id' ≠ id →
        (store.withDeclaration id step).1.slots.find? id' = store.slots.find? id' := by
  unfold withDeclaration
  split
  · exact ⟨rfl, rfl, fun _ _ => rfl⟩
  · exact ⟨rfl, rfl, fun id' other => OrderedMap.find?_insert_of_ne _ _ other.symm⟩

end WithDeclaration

/-! ### Amendments -/

theorem amend_of_unknown (unknown : store.declarations.find? id = none) :
    store.amend id = (store, .error (.state (.unknownDeclaration id))) := by
  simp [amend, slot, find?_slots_eq_none_iff.2 unknown]

theorem amend_of_edge (stored : store.declarations.find? id = some d)
    (edge : d.status.leadsTo .amended = true) :
    store.amend id = (store.replaceByAmendment id d, .ok store.nextId) := by
  obtain ⟨abandoned, found⟩ := exists_slot_of_stored stored
  have stepped : (Declaration.amend store.nextId).forFiling.applyTo d =
      (.ok (Declaration.amendment store.nextId d), { d with status := .amended }) :=
    InPlace.applyTo_forFiling_eq_ok_iff.2 (Declaration.applyTo_amend_eq_ok_iff.2 ⟨edge, rfl, rfl⟩)
  have closed : store.allocate.withDeclaration id (Declaration.amend store.nextId).forFiling =
      (store.allocate.replace id { d with status := .amended },
        .ok (Declaration.amendment store.nextId d)) :=
    withDeclaration_of_answer stored stepped nofun
  simp [amend, slot, found, closed, replaceByAmendment, Declaration.amendment]

/-- An amendment that is refused uses up its number all the same. -/
theorem amend_of_no_edge (stored : store.declarations.find? id = some d)
    (edge : d.status.leadsTo .amended = false) :
    store.amend id =
      (store.allocate, .error (.state (.invalidTransition d.status .amended))) := by
  obtain ⟨abandoned, found⟩ := exists_slot_of_stored stored
  have stepped : (Declaration.amend store.nextId).forFiling.applyTo d =
      (.error (.state (.invalidTransition d.status .amended)), d) :=
    InPlace.applyTo_forFiling_eq_error_iff.2
      ⟨_, Declaration.applyTo_amend_of_no_edge edge, rfl⟩
  -- The step leaves the declaration it was run on, so only the number is gone.
  have kept : store.allocate.replace id d = store.allocate := replace_of_stored stored
  have refused : store.allocate.withDeclaration id (Declaration.amend store.nextId).forFiling =
      (store.allocate.replace id d,
        .error (.state (.invalidTransition d.status .amended))) :=
    withDeclaration_of_answer stored stepped (by simp)
  rw [kept] at refused
  simp [amend, slot, found, refused]

/-! ### What a store answers is decided by its declarations -/

theorem get_congr (same : store'.declarations = store.declarations) (id : DeclarationId) :
    store'.get id = store.get id := by
  cases stored : store.declarations.find? id with
  | none => rw [get_of_unknown stored, get_of_unknown (same ▸ stored)]
  | some d => rw [get_of_stored stored, get_of_stored (same ▸ stored)]

/-- Whether an amendment fails, and how, depends on the declarations alone. -/
theorem amend_snd_congr (same : store'.declarations = store.declarations) (id : DeclarationId) :
    (store'.amend id).2.map (fun _ => ()) = (store.amend id).2.map (fun _ => ()) := by
  cases stored : store.declarations.find? id with
  | none => rw [amend_of_unknown stored, amend_of_unknown (same ▸ stored)]
  | some d =>
    have stored' : store'.declarations.find? id = some d := same ▸ stored
    cases edge : d.status.leadsTo .amended with
    | false => rw [amend_of_no_edge stored edge, amend_of_no_edge stored' edge]
    | true =>
      rw [amend_of_edge stored edge, amend_of_edge stored' edge]
      rfl

namespace Alike

variable (alike : store.Alike store')

include alike

theorem nextId_eq : store'.nextId = store.nextId := by
  rw [nextId, nextId, alike.lastId_eq]

theorem allocate : store.allocate.Alike store'.allocate where
  lastId_eq := congrArg (· + 1) alike.lastId_eq
  declarations_eq := alike.declarations_eq
  live_eq := alike.live_eq

theorem replace (id : DeclarationId) (d : Declaration) :
    (store.replace id d).Alike (store'.replace id d) where
  lastId_eq := alike.lastId_eq
  declarations_eq := by rw [declarations_replace, declarations_replace, alike.declarations_eq]
  live_eq := alike.live_eq

theorem hold (d : Declaration) : (store.hold d).Alike (store'.hold d) where
  lastId_eq := alike.lastId_eq
  declarations_eq := by rw [declarations_hold, declarations_hold, alike.declarations_eq]
  live_eq := congrArg (·.insert d.filingKey d.id) alike.live_eq

/-- A draft is created alike in stores that are alike. -/
theorem create (new : NewDeclaration) :
    (store'.create new).2 = (store.create new).2 ∧
      (store.create new).1.Alike (store'.create new).1 := by
  simp only [DeclarationStore.create, alike.live_eq, alike.nextId_eq]
  cases store.live.find? (Declaration.draft store.nextId new).filingKey with
  | some existing => exact ⟨rfl, alike.allocate⟩
  | none => exact ⟨rfl, alike.allocate.hold _⟩

/-- A declaration is amended alike in stores that are alike. -/
theorem amend (id : DeclarationId) :
    (store'.amend id).2 = (store.amend id).2 ∧ (store.amend id).1.Alike (store'.amend id).1 := by
  cases stored : store.declarations.find? id with
  | none =>
    have stored' : store'.declarations.find? id = none := alike.declarations_eq ▸ stored
    rw [amend_of_unknown stored, amend_of_unknown stored']
    exact ⟨rfl, alike⟩
  | some d =>
    have stored' : store'.declarations.find? id = some d := alike.declarations_eq ▸ stored
    cases edge : d.status.leadsTo .amended with
    | false =>
      rw [amend_of_no_edge stored edge, amend_of_no_edge stored' edge]
      exact ⟨rfl, alike.allocate⟩
    | true =>
      rw [amend_of_edge stored edge, amend_of_edge stored' edge, replaceByAmendment,
        replaceByAmendment, alike.nextId_eq]
      exact ⟨rfl, (alike.allocate.replace id _).hold _⟩

end Alike

end DeclarationStore

end IncomeTax
