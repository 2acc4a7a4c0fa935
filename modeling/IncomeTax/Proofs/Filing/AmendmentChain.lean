import IncomeTax.Proofs.Filing.LiveIndex

/-!
# Amendment chains

The declarations of one filing key form a chain. The first amends none, every later one was made to
amend the one before it, and only the last is not amended. A draft starts a chain, since its key
must have no live declaration. An amendment closes the last declaration of a chain and goes behind
it, since its number is above all others. Everything else leaves the declarations in their places.
So an amended declaration has one amendment, and following the links never leaves the key, branches
or comes back.

## Main definitions

* `Declaration.Replaces` — a declaration amends another one of its filing
* `Declaration.IsAmendmentChain` — the shape of the declarations of one key
* `DeclarationStore.filings` — the declarations of a key, by ascending number

## Main results

* `DeclarationStore.existsUnique_replacement` — an amended declaration has one replacement
* `FilingService.Change.isAmendmentChain` — a change keeps the declarations of every key a chain
* `FilingService.amendment_chain_of_run` — the chains at every moment of a run, and their links
-/

namespace IncomeTax

namespace Declaration

variable {d d' e : Declaration} {chain earlier later : List Declaration}

/-- The declaration was made to amend the other one, and has what identifies its filing. -/
structure Replaces (d' d : Declaration) : Prop where
  amends : d'.amends = some d.id
  newer : d.id.val < d'.id.val
  taxYear : d'.taxYear = d.taxYear
  category : d'.category = d.category
  identity : d'.identity = d.identity

/-- The first declaration amends none, and every later one replaces the one before it. -/
structure IsLinked (chain : List Declaration) : Prop where
  first : ∀ d ∈ chain.head?, d.amends = none
  links : chain.IsChain fun d d' => d'.Replaces d

/-- Linked declarations of which all but the last are amended. -/
structure IsAmendmentChain (chain : List Declaration) : Prop extends IsLinked chain where
  closed : ∀ d ∈ chain.dropLast, d.status = .amended
  live : ∀ d ∈ chain.getLast?, d.status ≠ .amended

/-- A revision changes contents, status and calculation only. -/
theorem Revision.exists_eq {tables : RateTableSet} (revision : d.Revision tables d') :
    ∃ content status calculation, d' = { d with content, status, calculation } := by
  cases revision <;> exact ⟨_, _, _, rfl⟩

/-! ### The last declaration of a chain -/

/-- The first declaration of a chain amends none, whatever becomes of the last and comes behind. -/
theorem IsLinked.first_of_amends_eq (linked : IsLinked (earlier ++ [d]))
    (same : d'.amends = d.amends) :
    ∀ e ∈ (earlier ++ d' :: later).head?, e.amends = none := by
  have first := linked.first
  cases earlier with
  | nil => simpa [same] using first
  | cons e rest => simpa using first

/-- The last declaration keeps its link whatever becomes of its contents and status. -/
theorem IsLinked.update_last (linked : IsLinked (earlier ++ [d])) (content : DeclarationContent)
    (status : DeclarationStatus) (calculation : Option CalculationResult) :
    IsLinked (earlier ++ [{ d with content, status, calculation }]) where
  first := by
    apply linked.first_of_amends_eq
    rfl
  links := by
    obtain ⟨links, -, last⟩ := List.isChain_append.1 linked.links
    refine List.isChain_append.2 ⟨links, .singleton _, fun e member e' here => ?_⟩
    obtain rfl := Option.some.inj here
    exact { last e member d rfl with }

/-- A declaration that replaces the last one goes behind it. -/
theorem IsLinked.concat (linked : IsLinked (earlier ++ [d])) (replaces : d'.Replaces d) :
    IsLinked (earlier ++ [d, d']) where
  first := linked.first_of_amends_eq rfl
  links := List.isChain_append_cons_cons.2 ⟨linked.links, replaces, .singleton _⟩

theorem isAmendmentChain_concat_iff : IsAmendmentChain (earlier ++ [d]) ↔
    IsLinked (earlier ++ [d]) ∧ (∀ e ∈ earlier, e.status = .amended) ∧ d.status ≠ .amended := by
  constructor
  · intro chain
    have closed := chain.closed
    rw [List.dropLast_concat] at closed
    exact ⟨chain.toIsLinked, closed, chain.live d List.getLast?_concat⟩
  · rintro ⟨linked, closed, live⟩
    refine ⟨linked, ?_, ?_⟩
    · rwa [List.dropLast_concat]
    · intro e last
      rw [List.getLast?_concat] at last
      obtain rfl := Option.some.inj last
      exact live

/-- Nothing follows a declaration that is not amended. -/
theorem IsAmendmentChain.eq_nil_of_live (chain : IsAmendmentChain (earlier ++ d :: later))
    (live : d.status ≠ .amended) : later = [] := by
  by_contra more
  refine live (chain.closed d ?_)
  rw [List.dropLast_append_of_ne_nil (List.cons_ne_nil _ _), List.dropLast_cons_of_ne_nil more]
  simp

theorem isAmendmentChain_nil : IsAmendmentChain [] where
  first _ member := by cases member
  links := .nil
  closed _ member := by cases member
  live _ member := by cases member

/-- A draft that amends nothing is a chain. -/
theorem isAmendmentChain_draft (id : DeclarationId) (new : NewDeclaration) :
    IsAmendmentChain [draft id new] := by
  have linked : IsLinked ([] ++ [draft id new]) := by
    refine ⟨fun e member => ?_, .singleton _⟩
    obtain rfl := Option.some.inj member
    rfl
  exact isAmendmentChain_concat_iff.2 ⟨linked, List.forall_mem_nil _, nofun⟩

/-- The last declaration of a chain may be revised. -/
theorem IsAmendmentChain.revise {tables : RateTableSet}
    (chain : IsAmendmentChain (earlier ++ [d])) (revision : d.Revision tables d') :
    IsAmendmentChain (earlier ++ [d']) := by
  obtain ⟨linked, closed, -⟩ := isAmendmentChain_concat_iff.1 chain
  have live := revision.status_ne_amended_after
  obtain ⟨content, status, calculation, rfl⟩ := revision.exists_eq
  exact isAmendmentChain_concat_iff.2 ⟨linked.update_last content status calculation, closed, live⟩

/-- The last declaration of a chain may be closed when its amendment goes behind it. -/
theorem IsAmendmentChain.amend (chain : IsAmendmentChain (earlier ++ [d])) {id : DeclarationId}
    (newer : d.id.val < id.val) :
    IsAmendmentChain (earlier ++ [{ d with status := .amended }, amendment id d]) := by
  obtain ⟨linked, closed, -⟩ := isAmendmentChain_concat_iff.1 chain
  have linked' := linked.update_last d.content .amended d.calculation
  have replaces : (amendment id d).Replaces { d with status := .amended } :=
    ⟨rfl, newer, rfl, rfl, rfl⟩
  rw [List.append_cons, isAmendmentChain_concat_iff, ← List.append_cons]
  refine ⟨linked'.concat replaces, ?_, nofun⟩
  rw [List.forall_mem_append, List.forall_mem_singleton]
  exact ⟨closed, rfl⟩

/-! ### The links of a chain -/

/-- An amended declaration of a chain is replaced by another one. -/
theorem IsAmendmentChain.exists_replacement (formed : IsAmendmentChain chain) (member : d ∈ chain)
    (amended : d.status = .amended) : ∃ d' ∈ chain, d'.Replaces d := by
  obtain ⟨before, after, rfl⟩ := List.append_of_mem member
  cases after with
  | nil => exact absurd amended (isAmendmentChain_concat_iff.1 formed).2.2
  | cons d' rest =>
    obtain ⟨-, replaces, -⟩ := List.isChain_append_cons_cons.1 formed.links
    exact ⟨d', by simp, replaces⟩

/-- A declaration of a chain that amends another one comes right after it. -/
theorem IsAmendmentChain.exists_replaced (formed : IsAmendmentChain chain) (member : d' ∈ chain)
    {id : DeclarationId} (link : d'.amends = some id) :
    ∃ before d after, chain = before ++ d :: d' :: after ∧ d.id = id ∧ d.status = .amended ∧
      d'.Replaces d := by
  obtain ⟨before, after, rfl⟩ := List.append_of_mem member
  rcases List.eq_nil_or_concat before with rfl | ⟨before, d, rfl⟩
  · have unlinked := formed.first d' rfl
    rw [link] at unlinked
    cases unlinked
  · rw [List.concat_append] at formed ⊢
    obtain ⟨-, replaces, -⟩ := List.isChain_append_cons_cons.1 formed.links
    have number : d.id = id := Option.some.inj (replaces.amends.symm.trans link)
    refine ⟨before, d, after, rfl, number, formed.closed d ?_, replaces⟩
    rw [List.dropLast_append_of_ne_nil (List.cons_ne_nil _ _),
      List.dropLast_cons_of_ne_nil (List.cons_ne_nil _ _)]
    simp

/-- Two declarations of a chain that amend the same one are the same. -/
theorem IsAmendmentChain.eq_of_amends (formed : IsAmendmentChain chain)
    (ascending : chain.Pairwise fun d d' => d.id.val < d'.id.val) (member : d ∈ chain)
    (member' : d' ∈ chain) {id : DeclarationId} (link : d.amends = some id)
    (link' : d'.amends = some id) : d = d' := by
  have distinct : (chain.map (·.id)).Nodup :=
    List.pairwise_map.2 (ascending.imp fun lt same => lt.ne (congrArg DeclarationId.val same))
  obtain ⟨before, e, after, split, number, -⟩ := formed.exists_replaced member link
  obtain ⟨before', e', after', split', number', -⟩ := formed.exists_replaced member' link'
  -- The one they amend stands at one place of the chain only, so they both stand behind it.
  have here : before.length < (chain.map (·.id)).length := by simp [split]
  have same : before.length = before'.length := by
    refine (List.getElem?_inj here distinct).1 ?_
    rw [List.getElem?_map, List.getElem?_map]
    nth_rewrite 1 [split]
    rw [split']
    simp [number, number']
  have behind : chain[before.length + 1]? = some d := by simp [split]
  rw [same, split'] at behind
  simpa using behind.symm

end Declaration

namespace DeclarationStore

open Declaration

variable {store : DeclarationStore} {id : DeclarationId} {key : FilingKey} {d d' : Declaration}

/-- The declarations of a filing key, by ascending number. -/
def filings (store : DeclarationStore) (key : FilingKey) : List Declaration :=
  store.declarations.values.filter (·.filingKey = key)

theorem mem_values_iff (numbered : store.IsNumbered) :
    d ∈ store.declarations.values ↔ store.declarations.find? d.id = some d := by
  constructor
  · intro member
    obtain ⟨⟨id, e⟩, listed, rfl⟩ := List.mem_map.1 member
    have found := OrderedMap.find?_eq_some_iff.2 listed
    rwa [numbered.id_eq id e found]
  · exact OrderedMap.mem_values_of_find?

theorem mem_filings_iff (numbered : store.IsNumbered) :
    d ∈ store.filings key ↔ store.declarations.find? d.id = some d ∧ d.filingKey = key := by
  rw [filings, List.mem_filter, mem_values_iff numbered, decide_eq_true_iff]

/-- The declarations of a key have ascending numbers. -/
theorem pairwise_filings (numbered : store.IsNumbered) (key : FilingKey) :
    (store.filings key).Pairwise fun d d' => d.id.val < d'.id.val := by
  have ascending := store.declarations.pairwise_keys
  rw [← OrderedMap.map_values_eq_keys numbered.id_eq, List.pairwise_map] at ascending
  exact (ascending.imp Nat.compare_eq_lt.1).filter _

/-- A live declaration is the last one of its key, and so is whatever takes its place there. -/
theorem exists_filings_eq_concat (stored : store.declarations.find? id = some d)
    (live : d.status ≠ .amended) (chain : IsAmendmentChain (store.filings d.filingKey)) :
    ∃ earlier, store.filings d.filingKey = earlier ++ [d] ∧
      ∀ d', d'.filingKey = d.filingKey →
        (store.replace id d').filings d.filingKey = earlier ++ [d'] := by
  obtain ⟨before, after, values, replaced⟩ := OrderedMap.exists_values_insert stored
  have filed : store.filings d.filingKey = before.filter (·.filingKey = d.filingKey) ++
      d :: after.filter (·.filingKey = d.filingKey) := by
    simp [filings, values]
  rw [filed] at chain
  have last := chain.eq_nil_of_live live
  refine ⟨before.filter (·.filingKey = d.filingKey), by rw [filed, last], fun d' same => ?_⟩
  simp [filings, declarations_replace, replaced, same, last]

/-- What takes its place plays no part for other keys. -/
theorem filings_replace_of_ne (stored : store.declarations.find? id = some d)
    (same : d'.filingKey = d.filingKey) (other : d.filingKey ≠ key) :
    (store.replace id d').filings key = store.filings key := by
  obtain ⟨before, after, values, replaced⟩ := OrderedMap.exists_values_insert stored
  simp [filings, declarations_replace, values, replaced, same, other]

/-- A declaration under the next number is the last one of its key. -/
theorem filings_hold (numbered : store.IsNumbered) (number : d.id = store.nextId)
    (key : FilingKey) :
    (store.hold d).filings key = store.filings key ++ if d.filingKey = key then [d] else [] := by
  have above : ∀ id ∈ store.declarations.keys, compare id d.id = .lt := by
    intro id member
    obtain ⟨e, stored⟩ := OrderedMap.mem_keys_iff.1 member
    rw [number]
    exact Nat.compare_eq_lt.2 (Nat.lt_succ_of_le (numbered.id_le id e stored))
  rw [filings, declarations_hold, OrderedMap.values_insert_of_above d above, List.filter_append, filings]
  by_cases here : d.filingKey = key <;> simp [here]

/-- A key without a live declaration has no declaration at all. -/
theorem filings_eq_nil (indexed : store.IsIndexed) (free : store.live.find? key = none)
    (chain : IsAmendmentChain (store.filings key)) : store.filings key = [] := by
  by_contra filed
  obtain ⟨last, found⟩ := Option.ne_none_iff_exists'.1 (mt List.getLast?_eq_none_iff.1 filed)
  have member := (mem_filings_iff indexed.toIsNumbered).1 (List.mem_of_getLast? found)
  exact (indexed.beside free).free last.id ⟨last, member.1, chain.live last found, member.2⟩

/-! ### The links of a store -/

section Links

variable {id' : DeclarationId} (numbered : store.IsNumbered)
  (chains : ∀ key, IsAmendmentChain (store.filings key))

include numbered

theorem mem_filings_of_find? (stored : store.declarations.find? id = some d) :
    d ∈ store.filings d.filingKey := by
  rw [← numbered.id_eq id d stored] at stored
  exact (mem_filings_iff numbered).2 ⟨stored, rfl⟩

include chains

/-- A link leads to an amended declaration of the same key with a smaller number. -/
theorem exists_replaced_of_amends (stored : store.declarations.find? id' = some d')
    (link : d'.amends = some id) :
    ∃ d, store.declarations.find? id = some d ∧ d.status = .amended ∧
      d.filingKey = d'.filingKey ∧ id.val < id'.val := by
  obtain ⟨before, d, after, split, rfl, amended, replaces⟩ :=
    (chains d'.filingKey).exists_replaced (mem_filings_of_find? numbered stored) link
  have member : d ∈ store.filings d'.filingKey := by simp [split]
  obtain ⟨found, same⟩ := (mem_filings_iff numbered).1 member
  rw [← numbered.id_eq id' d' stored]
  exact ⟨d, found, amended, same, replaces.newer⟩

/-- An amended declaration is replaced by exactly one stored declaration. -/
theorem existsUnique_replacement (stored : store.declarations.find? id = some d)
    (amended : d.status = .amended) :
    ∃! d', store.declarations.find? d'.id = some d' ∧ d'.amends = some id := by
  obtain ⟨d', member, replaces⟩ :=
    (chains d.filingKey).exists_replacement (mem_filings_of_find? numbered stored) amended
  obtain ⟨stored', -⟩ := (mem_filings_iff numbered).1 member
  have link : d'.amends = some id := by
    rw [replaces.amends, numbered.id_eq id d stored]
  refine ⟨d', ⟨stored', link⟩, ?_⟩
  rintro e ⟨storedToo, linkToo⟩
  -- Whatever amends the declaration has its key, so it is in the same chain.
  obtain ⟨d₁, found, -, same, -⟩ := exists_replaced_of_amends numbered chains storedToo linkToo
  obtain rfl := Option.some.inj (stored.symm.trans found)
  have memberToo : e ∈ store.filings d.filingKey := by
    rw [same]
    exact mem_filings_of_find? numbered storedToo
  exact (chains d.filingKey).eq_of_amends (pairwise_filings numbered _) memberToo member linkToo
    link

end Links

end DeclarationStore

namespace FilingService

open Declaration

variable {s s' : FilingService}

/-- Every change keeps the declarations of every key a chain. -/
theorem Change.isAmendmentChain (change : Change s s') (indexed : s.store.IsIndexed)
    (chains : ∀ key, IsAmendmentChain (s.store.filings key)) (key : FilingKey) :
    IsAmendmentChain (s'.store.filings key) := by
  cases change with
  | kept alike =>
    rw [DeclarationStore.filings, alike.declarations_eq]
    exact chains key
  | numbered | reloaded => exact chains key
  | created new free =>
    have filed := DeclarationStore.filings_hold indexed.toIsNumbered
      (d := draft s.store.nextId new) rfl key
    show IsAmendmentChain ((s.store.hold (draft s.store.nextId new)).filings key)
    rw [filed]
    split
    next here =>
      rw [filingKey_draft] at here
      subst here
      rw [DeclarationStore.filings_eq_nil indexed free (chains _)]
      exact isAmendmentChain_draft _ _
    next => simpa using chains key
  | @revised id d d' stored revision =>
    by_cases here : d.filingKey = key
    · subst here
      have chain := chains d.filingKey
      obtain ⟨earlier, filed, replaced⟩ :=
        DeclarationStore.exists_filings_eq_concat stored revision.status_ne_amended chain
      rw [filed] at chain
      rw [replaced d' revision.filingKey_eq]
      exact chain.revise revision
    · rw [DeclarationStore.filings_replace_of_ne stored revision.filingKey_eq here]
      exact chains key
  | @amended id d stored edge =>
    -- The declaration is closed in its place first, and the amendment is stored after that.
    let closed : Declaration := { d with status := .amended }
    have numbered : (s.store.replace id closed).IsNumbered :=
      indexed.toIsNumbered.replace stored rfl
    have filed := DeclarationStore.filings_hold numbered (d := amendment s.store.nextId d) rfl key
    show IsAmendmentChain (((s.store.replace id closed).hold
      (amendment s.store.nextId d)).filings key)
    rw [filed, filingKey_amendment]
    by_cases here : d.filingKey = key
    · subst here
      have chain := chains d.filingKey
      obtain ⟨earlier, filed, replaced⟩ := DeclarationStore.exists_filings_eq_concat stored
        (DeclarationStatus.ne_amended_of_leadsTo edge) chain
      rw [filed] at chain
      have newer : d.id.val < s.store.nextId.val := by
        rw [indexed.id_eq id d stored]
        exact Nat.lt_succ_of_le (indexed.id_le id d stored)
      rw [replaced closed rfl, if_pos rfl, List.append_assoc]
      exact chain.amend newer
    · have same : closed.filingKey = d.filingKey := rfl
      rw [DeclarationStore.filings_replace_of_ne stored same here, if_neg here, List.append_nil]
      exact chains key

/-- The declarations of every key are a chain at every moment of a run. -/
theorem isAmendmentChain_after (tables : RateTableSet) (ops : List FilingOperation)
    (key : FilingKey) : IsAmendmentChain (((start tables).after ops).store.filings key) := by
  -- The index says that a draft never meets declarations of its key, so it is carried along.
  have both : ((start tables).after ops).store.IsIndexed ∧
      ∀ key, IsAmendmentChain (((start tables).after ops).store.filings key) := by
    refine after_induction (motive := fun s => s.store.IsIndexed ∧
      ∀ key, IsAmendmentChain (s.store.filings key)) ⟨DeclarationStore.isIndexed_empty, ?_⟩ ?_
    · intro key
      exact isAmendmentChain_nil
    · rintro s s' ⟨indexed, chains⟩ change
      exact ⟨change.isIndexed indexed, change.isAmendmentChain indexed chains⟩
  exact both.2 key

/-- At every moment of a run the declarations of a filing key, by ascending number, form one
amendment chain. So every amended declaration is replaced by exactly one stored declaration, and a
link leads to an amended declaration of the same key with a smaller number. -/
theorem amendment_chain_of_run (tables : RateTableSet) (ops : List FilingOperation) :
    let store := ((start tables).after ops).store
    (∀ id d, store.declarations.find? id = some d → d.id = id) ∧
    (∀ key,
      (∀ d, d ∈ store.filings key ↔
        store.declarations.find? d.id = some d ∧ d.filingKey = key) ∧
      (store.filings key).Pairwise (fun d d' => d.id.val < d'.id.val) ∧
      IsAmendmentChain (store.filings key)) ∧
    (∀ id d, store.declarations.find? id = some d → d.status = .amended →
      ∃! d', store.declarations.find? d'.id = some d' ∧ d'.amends = some id) ∧
    ∀ id' d', store.declarations.find? id' = some d' → ∀ id, d'.amends = some id →
      ∃ d, store.declarations.find? id = some d ∧ d.status = .amended ∧
        d.filingKey = d'.filingKey ∧ id.val < id'.val := by
  intro store
  have numbered : store.IsNumbered := (isIndexed_after tables ops).toIsNumbered
  have chains : ∀ key, IsAmendmentChain (store.filings key) := isAmendmentChain_after tables ops
  refine ⟨numbered.id_eq, fun key => ⟨?_, DeclarationStore.pairwise_filings numbered key,
    chains key⟩, ?_, ?_⟩
  · intro d
    exact DeclarationStore.mem_filings_iff numbered
  · intro id d stored amended
    exact DeclarationStore.existsUnique_replacement numbered chains stored amended
  · intro id' d' stored id link
    exact DeclarationStore.exists_replaced_of_amends numbered chains stored link

/-- A run in which a declaration is amended, a second amendment of it is refused, and its amendment
is rejected and amended in turn. -/
def amendingRun : List FilingOperation :=
  sampleRun ++ [.amend ⟨1⟩, .reload [.sample2024] [] .strict, .validate ⟨2⟩, .submit ⟨2⟩,
    .record ⟨2⟩ .beginProcessing, .record ⟨2⟩ .reject, .amend ⟨2⟩]

/-- The three declarations of that run form a chain, and the second one has one replacement. -/
theorem amendment_chain_of_amendingRun :
    let store := ((start .empty).after amendingRun).store
    let filings := store.filings NewDeclaration.sample2024.filingKey
    filings.map (·.id.val) = [1, 2, 4] ∧ IsAmendmentChain filings ∧
      ∃! d', store.declarations.find? d'.id = some d' ∧ d'.amends = some ⟨2⟩ := by
  intro store filings
  have numbers : filings.map (·.id.val) = [1, 2, 4] := by decide +kernel
  have found : (store.declarations.find? ⟨2⟩).map (·.status) = some .amended := by decide +kernel
  obtain ⟨d, stored, amended⟩ := Option.map_eq_some_iff.1 found
  obtain ⟨-, chains, replaced, -⟩ := amendment_chain_of_run .empty amendingRun
  exact ⟨numbers, (chains _).2.2, replaced ⟨2⟩ d stored amended⟩

end FilingService

end IncomeTax
