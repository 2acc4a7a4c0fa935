import IncomeTax.Proofs.Filing.Run

/-!
# The index of live declarations

The index from filing keys to declarations repeats what the declarations themselves say: it leads
from a key to the stored declaration that has the key and is not amended. It stays exact through
every operation, because an edit keeps the key, and an amendment takes the key over from the
declaration it closes. So a key never has two live declarations, and a draft is refused exactly when
its key has one.

## Main definitions

* `DeclarationStore.Holds` — a stored declaration is not amended and has a key
* `DeclarationStore.IsIndexed` — the invariant, and `IsIndexedBeside` without one key

## Main results

* `FilingService.isIndexed_after` — the index is exact at every moment of a run
-/

namespace IncomeTax

namespace DeclarationStore

/-- The declaration with a number is stored, is not amended and has a filing key. -/
def Holds (store : DeclarationStore) (id : DeclarationId) (key : FilingKey) : Prop :=
  ∃ d, store.declarations.find? id = some d ∧ d.status ≠ .amended ∧ d.filingKey = key

/-- Declarations are stored under their own numbers, which have been given out. -/
structure IsNumbered (store : DeclarationStore) : Prop where
  id_eq : ∀ id d, store.declarations.find? id = some d → d.id = id
  id_le : ∀ id d, store.declarations.find? id = some d → id.val ≤ store.lastId

/-- The index leads from each key to the declaration that holds it. -/
structure IsIndexed (store : DeclarationStore) : Prop extends IsNumbered store where
  live_iff : ∀ key id, store.live.find? key = some id ↔ store.Holds id key

/-- The index is exact for every key but one, which nobody holds. -/
structure IsIndexedBeside (store : DeclarationStore) (key : FilingKey) : Prop
    extends IsNumbered store where
  free : ∀ id, ¬ store.Holds id key
  live_iff : ∀ key' id, key' ≠ key → (store.live.find? key' = some id ↔ store.Holds id key')

theorem isIndexed_empty : IsIndexed empty where
  id_eq _ _ stored := nomatch stored
  id_le _ _ stored := nomatch stored
  live_iff key id := by
    constructor
    · intro found
      cases found
    · rintro ⟨d, stored, -⟩
      cases stored

variable {store : DeclarationStore} {id : DeclarationId} {key : FilingKey} {d d' : Declaration}

/-- An abandoned lock plays no part. -/
theorem Alike.isIndexed {store' : DeclarationStore} (alike : store.Alike store')
    (indexed : store.IsIndexed) : store'.IsIndexed where
  id_eq id d stored := indexed.id_eq id d (alike.declarations_eq ▸ stored)
  id_le id d stored := by
    rw [alike.lastId_eq]
    exact indexed.id_le id d (alike.declarations_eq ▸ stored)
  live_iff key id := by
    rw [alike.live_eq, Holds, alike.declarations_eq]
    exact indexed.live_iff key id

theorem IsIndexed.allocate (indexed : store.IsIndexed) : store.allocate.IsIndexed where
  id_eq := indexed.id_eq
  id_le id d stored := Nat.le_succ_of_le (indexed.id_le id d stored)
  live_iff := indexed.live_iff

/-- No declaration is stored under the next number. -/
theorem IsNumbered.find?_nextId (numbered : store.IsNumbered) :
    store.declarations.find? store.nextId = none := by
  cases stored : store.declarations.find? store.nextId with
  | none => rfl
  | some d => exact absurd (numbered.id_le _ _ stored) (Nat.not_succ_le_self _)

/-- Two declarations that hold one key are one declaration. -/
theorem IsIndexed.eq_of_holds (indexed : store.IsIndexed) {id' : DeclarationId}
    (holds : store.Holds id key) (holds' : store.Holds id' key) : id = id' := by
  have found := (indexed.live_iff key id).2 holds
  rw [(indexed.live_iff key id').2 holds'] at found
  exact (Option.some.inj found).symm

/-- A key that leads nowhere has no holder. -/
theorem IsIndexed.beside (indexed : store.IsIndexed) (free : store.live.find? key = none) :
    store.IsIndexedBeside key where
  toIsNumbered := indexed.toIsNumbered
  free id holds := by
    have found := (indexed.live_iff key id).2 holds
    rw [free] at found
    cases found
  live_iff key' id _ := indexed.live_iff key' id

/-! ### What storing a declaration does to the holders of keys -/

theorem IsNumbered.replace (numbered : store.IsNumbered)
    (stored : store.declarations.find? id = some d) (number : d'.id = d.id) :
    (store.replace id d').IsNumbered where
  id_eq id' e stored' := by
    rcases find?_replace_eq_some_iff.1 stored' with ⟨rfl, rfl⟩ | ⟨-, stored'⟩
    · exact number.trans (numbered.id_eq _ _ stored)
    · exact numbered.id_eq _ _ stored'
  id_le id' e stored' := by
    rcases find?_replace_eq_some_iff.1 stored' with ⟨rfl, rfl⟩ | ⟨-, stored'⟩
    · exact numbered.id_le _ _ stored
    · exact numbered.id_le _ _ stored'

/-- A declaration that is written at a number holds its key there. -/
theorem holds_iff_of_written {store' : DeclarationStore} {id' : DeclarationId}
    (written : ∀ id' e, store'.declarations.find? id' = some e ↔
      (id' = id ∧ e = d) ∨ (id' ≠ id ∧ store.declarations.find? id' = some e)) :
    store'.Holds id' key ↔
      (id' = id ∧ d.status ≠ .amended ∧ d.filingKey = key) ∨ (id' ≠ id ∧ store.Holds id' key) := by
  simp only [Holds, written]
  constructor
  · rintro ⟨e, ⟨rfl, rfl⟩ | ⟨other, stored⟩, live, same⟩
    · exact .inl ⟨rfl, live, same⟩
    · exact .inr ⟨other, e, stored, live, same⟩
  · rintro (⟨rfl, live, same⟩ | ⟨other, e, stored, live, same⟩)
    · exact ⟨d, .inl ⟨rfl, rfl⟩, live, same⟩
    · exact ⟨e, .inr ⟨other, stored⟩, live, same⟩

theorem holds_replace_iff {id' : DeclarationId} :
    (store.replace id d).Holds id' key ↔
      (id' = id ∧ d.status ≠ .amended ∧ d.filingKey = key) ∨ (id' ≠ id ∧ store.Holds id' key) :=
  holds_iff_of_written fun _ _ => find?_replace_eq_some_iff

theorem holds_hold_iff {id' : DeclarationId} :
    (store.hold d).Holds id' key ↔
      (id' = d.id ∧ d.status ≠ .amended ∧ d.filingKey = key) ∨
        (id' ≠ d.id ∧ store.Holds id' key) :=
  holds_iff_of_written fun _ _ => find?_hold_eq_some_iff

/-- What a number holds is decided by what is stored under it. -/
theorem holds_iff_of_stored (stored : store.declarations.find? id = some d) :
    store.Holds id key ↔ d.status ≠ .amended ∧ d.filingKey = key := by
  constructor
  · rintro ⟨e, stored', live, same⟩
    rw [stored] at stored'
    cases stored'
    exact ⟨live, same⟩
  · rintro ⟨live, same⟩
    exact ⟨d, stored, live, same⟩

/-- A live declaration may be replaced by a live one with its number and key. -/
theorem IsIndexed.replace (indexed : store.IsIndexed) (stored : store.declarations.find? id = some d)
    (number : d'.id = d.id) (same : d'.filingKey = d.filingKey) (live : d.status ≠ .amended)
    (live' : d'.status ≠ .amended) : (store.replace id d').IsIndexed where
  toIsNumbered := indexed.toIsNumbered.replace stored number
  live_iff key id' := by
    rw [holds_replace_iff]
    refine (indexed.live_iff key id').trans ?_
    by_cases here : id' = id
    · subst here
      simp [holds_iff_of_stored stored, live, live', same]
    · simp [here]

/-- Closing a declaration leaves its key without a holder, though the index still leads to it. -/
theorem IsIndexed.close (indexed : store.IsIndexed) (stored : store.declarations.find? id = some d)
    (live : d.status ≠ .amended) :
    (store.replace id { d with status := .amended }).IsIndexedBeside d.filingKey where
  toIsNumbered := indexed.toIsNumbered.replace stored rfl
  free id' holds := by
    rcases holds_replace_iff.1 holds with ⟨-, amended, -⟩ | ⟨other, holds⟩
    · exact amended rfl
    · exact other (indexed.eq_of_holds holds ((holds_iff_of_stored stored).2 ⟨live, rfl⟩))
  live_iff key' id' differ := by
    rw [holds_replace_iff]
    refine (indexed.live_iff key' id').trans ?_
    by_cases here : id' = id
    · subst here
      simp [holds_iff_of_stored stored, Ne.symm differ]
    · simp [here]

/-- A live declaration under the next number becomes the holder of a key that has none. -/
theorem IsIndexedBeside.hold (beside : store.IsIndexedBeside d.filingKey)
    (number : d.id = store.nextId) (live : d.status ≠ .amended) :
    (store.allocate.hold d).IsIndexed where
  id_eq id e stored := by
    rcases find?_hold_eq_some_iff.1 stored with ⟨rfl, rfl⟩ | ⟨-, stored⟩
    · rfl
    · exact beside.id_eq _ _ stored
  id_le id e stored := by
    rcases find?_hold_eq_some_iff.1 stored with ⟨rfl, rfl⟩ | ⟨-, stored⟩
    · exact Nat.le_of_eq (congrArg DeclarationId.val number)
    · exact Nat.le_succ_of_le (beside.id_le _ _ stored)
  live_iff key id := by
    -- The new number held no key before, so only the new key leads to it.
    have unused : ¬ ∃ key, store.Holds d.id key := by
      rintro ⟨key, e, stored, -⟩
      rw [number, beside.find?_nextId] at stored
      cases stored
    have holds : (store.allocate.hold d).Holds id key ↔
        (id = d.id ∧ d.status ≠ .amended ∧ d.filingKey = key) ∨
          (id ≠ d.id ∧ store.Holds id key) := holds_hold_iff
    rw [holds]
    refine (OrderedMap.find?_insert_eq_some_iff (m := store.live)).trans ?_
    by_cases same : key = d.filingKey
    · subst same
      simp [live, beside.free]
    · have exact_ := beside.live_iff key id same
      by_cases here : id = d.id
      · subst here
        have free : ¬ store.live.find? key = some d.id := fun found => unused ⟨key, exact_.1 found⟩
        simpa [same, Ne.symm same] using free
      · simpa [same, here] using exact_

end DeclarationStore

namespace FilingService

variable {s s' : FilingService}

/-- Every change keeps the index exact. -/
theorem Change.isIndexed (change : Change s s') (indexed : s.store.IsIndexed) :
    s'.store.IsIndexed := by
  cases change with
  | kept alike => exact alike.isIndexed indexed
  | reloaded => exact indexed
  | numbered => exact indexed.allocate
  | created new free =>
    have beside := indexed.beside free
    rw [← Declaration.filingKey_draft s.store.nextId new] at beside
    exact beside.hold rfl nofun
  | revised stored revision =>
    exact indexed.replace stored revision.id_eq revision.filingKey_eq revision.status_ne_amended
      revision.status_ne_amended_after
  | @amended id d stored edge =>
    -- In between, the index leads from the key to a closed declaration.
    have beside := indexed.close stored (DeclarationStatus.ne_amended_of_leadsTo edge)
    rw [← Declaration.filingKey_amendment s.store.nextId d] at beside
    exact beside.hold rfl nofun

/-- The index is exact at every moment of a run. -/
theorem isIndexed_after (tables : RateTableSet) (ops : List FilingOperation) :
    ((start tables).after ops).store.IsIndexed :=
  after_induction DeclarationStore.isIndexed_empty fun _ _ indexed change => change.isIndexed indexed

/-- Numbers are given out in ascending order. -/
theorem Change.lastId_le (change : Change s s') : s.store.lastId ≤ s'.store.lastId := by
  cases change with
  | kept alike => exact Nat.le_of_eq alike.lastId_eq.symm
  | revised | reloaded => exact Nat.le_refl _
  | numbered | created | amended => exact Nat.le_succ _

theorem lastId_le_of_prefix {earlier ops : List FilingOperation} (moment : earlier <+: ops) :
    (s.after earlier).store.lastId ≤ (s.after ops).store.lastId :=
  after_rel_of_prefix (fun s s' => s.store.lastId ≤ s'.store.lastId) (fun _ => Nat.le_refl _)
    (fun _ _ _ le change => Nat.le_trans le change.lastId_le) moment

/-- A draft whose key has a holder is refused. -/
theorem create_of_holds (indexed : s.store.IsIndexed) {new : NewDeclaration} {id : DeclarationId}
    (holds : s.store.Holds id new.filingKey) :
    s.create new =
      ({ s with store := s.store.allocate }, .error (.state (.duplicateFiling new.filingKey id))) :=
  create_of_find?_eq_some ((indexed.live_iff _ _).2 holds)

/-- A draft whose key has no holder is stored. -/
theorem create_of_free (indexed : s.store.IsIndexed) {new : NewDeclaration}
    (free : ∀ id, ¬ s.store.Holds id new.filingKey) :
    s.create new =
      ({ s with store := s.store.allocate.hold (.draft s.store.nextId new) },
        .ok s.store.nextId) :=
  create_of_find?_eq_none (Option.eq_none_iff_forall_ne_some.2 fun id found =>
    free id ((indexed.live_iff _ _).1 found))

/-- A draft is refused as a duplicate exactly of the declaration that holds its key. -/
theorem create_eq_duplicateFiling_iff (indexed : s.store.IsIndexed) {new : NewDeclaration}
    {key : FilingKey} {id : DeclarationId} :
    (s.create new).2 = .error (.state (.duplicateFiling key id)) ↔
      key = new.filingKey ∧ s.store.Holds id key := by
  constructor
  · intro refused
    by_cases held : ∃ id', s.store.Holds id' new.filingKey
    · obtain ⟨id', holds⟩ := held
      rw [create_of_holds indexed holds] at refused
      cases refused
      exact ⟨rfl, holds⟩
    · rw [create_of_free indexed (not_exists.1 held)] at refused
      cases refused
  · rintro ⟨rfl, holds⟩
    rw [create_of_holds indexed holds]

/-- The next number of a run was never given out, so nothing was ever stored under it. -/
theorem nextId_fresh (tables : RateTableSet) {earlier ops : List FilingOperation}
    (moment : earlier <+: ops) :
    ((start tables).after earlier).store.declarations.find?
        ((start tables).after ops).store.nextId = none ∧
      ((start tables).after earlier).store.lastId <
        ((start tables).after ops).store.nextId.val := by
  have below := lastId_le_of_prefix (s := start tables) moment
  refine ⟨?_, Nat.lt_succ_of_le below⟩
  cases stored : ((start tables).after earlier).store.declarations.find?
      ((start tables).after ops).store.nextId with
  | none => rfl
  | some d =>
    -- A stored number was given out by then, and the counter never goes back.
    have given := (isIndexed_after tables earlier).id_le _ _ stored
    exact absurd (Nat.le_trans given below) (Nat.not_succ_le_self _)

/-- At every moment of a run the index leads from a key to a declaration exactly when the
declaration is stored, is not amended and has the key. So no two live declarations share a key. A
draft is refused as a duplicate exactly when a live declaration has its key, and the refusal names
that declaration; every other draft is stored under a number that was never given out. -/
theorem live_index_exact (tables : RateTableSet) (ops : List FilingOperation) :
    let s := (start tables).after ops
    (∀ key id, s.store.live.find? key = some id ↔
      ∃ d, s.store.declarations.find? id = some d ∧ d.status ≠ .amended ∧ d.filingKey = key) ∧
    (∀ id id' d d', s.store.declarations.find? id = some d →
      s.store.declarations.find? id' = some d' → d.status ≠ .amended → d'.status ≠ .amended →
      d.filingKey = d'.filingKey → id = id') ∧
    ∀ new : NewDeclaration,
      (∀ key id, (s.create new).2 = .error (.state (.duplicateFiling key id)) ↔
        key = new.filingKey ∧ s.store.Holds id key) ∧
      ((∀ id, ¬ s.store.Holds id new.filingKey) →
        ∃ id, (s.create new).2 = .ok id ∧
          (s.create new).1.store.declarations.find? id = some (.draft id new) ∧
          ∀ earlier, earlier <+: ops →
            ((start tables).after earlier).store.declarations.find? id = none ∧
            ((start tables).after earlier).store.lastId < id.val) := by
  intro s
  have indexed : s.store.IsIndexed := isIndexed_after tables ops
  refine ⟨indexed.live_iff, ?_, fun new => ⟨?_, ?_⟩⟩
  · intro id id' d d' stored stored' live live' same
    exact indexed.eq_of_holds ⟨d, stored, live, same⟩ ⟨d', stored', live', rfl⟩
  · intro key id
    exact create_eq_duplicateFiling_iff indexed
  · intro free
    rw [create_of_free indexed free]
    refine ⟨s.store.nextId, rfl, DeclarationStore.find?_hold_self _ _, ?_⟩
    intro earlier moment
    exact nextId_fresh tables moment

/-- After the sample run the amendment holds the key of the declaration it amends, and a draft with
that key is refused. -/
theorem live_index_exact_of_sampleRun :
    let s := (start .empty).after sampleRun
    let key := NewDeclaration.sample2024.filingKey
    s.store.live.find? key = some ⟨2⟩ ∧ s.store.Holds ⟨2⟩ key ∧
      (s.create .sample2024).2 = .error (.state (.duplicateFiling key ⟨2⟩)) := by
  intro s key
  have found : s.store.live.find? key = some ⟨2⟩ := by decide +kernel
  obtain ⟨live, -, create⟩ := live_index_exact .empty sampleRun
  have holds : s.store.Holds ⟨2⟩ key := (live key ⟨2⟩).1 found
  exact ⟨found, holds, ((create .sample2024).1 key ⟨2⟩).2 ⟨rfl, holds⟩⟩

end FilingService

end IncomeTax
