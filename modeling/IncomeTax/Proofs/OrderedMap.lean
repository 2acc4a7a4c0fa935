import IncomeTax.OrderedMap
import Mathlib.Algebra.BigOperators.Group.List.Lemmas
import Mathlib.Data.List.Sort

/-!
# Look-up by equal keys

When keys that compare alike are equal, a map is a finite partial function: setting or erasing a key
changes the function at that key and nowhere else, and the function determines the map. Among the
values in key order, the value of a key that is set takes the place of the one it replaces, and that
of a key above all others comes last. When values know their keys, the value of a key is the only one
that names it. A total over all values changes by the new value less the one it replaces. A function
applied to all values is applied to whatever is found.
-/

namespace IncomeTax.OrderedMap

variable {κ ν : Type} [Ord κ] [Std.TransOrd κ] [Std.LawfulEqOrd κ]

@[simp] theorem find?_insert_self (m : OrderedMap κ ν) (k : κ) (v : ν) :
    (m.insert k v).find? k = some v := by
  rw [find?_insert, if_pos Std.ReflCmp.compare_self]

theorem find?_insert_of_ne (m : OrderedMap κ ν) {k k' : κ} (v : ν) (differ : k ≠ k') :
    (m.insert k v).find? k' = m.find? k' := by
  rw [find?_insert, if_neg fun same => differ (Std.LawfulEqOrd.eq_of_compare same)]

/-- What a map with one key set holds: the new value at that key, the old ones elsewhere. -/
theorem find?_insert_eq_some_iff {m : OrderedMap κ ν} {k k' : κ} {v v' : ν} :
    (m.insert k v).find? k' = some v' ↔
      (k' = k ∧ v' = v) ∨ (k' ≠ k ∧ m.find? k' = some v') := by
  by_cases same : k' = k
  · subst same
    simp [eq_comm]
  · rw [find?_insert_of_ne m v (Ne.symm same)]
    simp [same]

@[simp] theorem find?_erase_self (m : OrderedMap κ ν) (k : κ) : (m.erase k).find? k = none := by
  rw [find?_erase, if_pos Std.ReflCmp.compare_self]

theorem find?_erase_of_ne (m : OrderedMap κ ν) {k k' : κ} (differ : k ≠ k') :
    (m.erase k).find? k' = m.find? k' := by
  rw [find?_erase, if_neg fun same => differ (Std.LawfulEqOrd.eq_of_compare same)]

/-- A key keeps the first value it was given. -/
@[simp] theorem find?_insertNew_self (m : OrderedMap κ ν) (k : κ) (v : ν) :
    (m.insertNew k v).find? k = some ((m.find? k).getD v) := by
  unfold insertNew contains
  cases found : m.find? k with
  | none => simp
  | some v' => simpa using found

theorem find?_insertNew_of_ne (m : OrderedMap κ ν) {k k' : κ} (v : ν) (differ : k ≠ k') :
    (m.insertNew k v).find? k' = m.find? k' := by
  unfold insertNew
  split
  · rfl
  · exact find?_insert_of_ne m v differ

omit [Std.TransOrd κ] [Std.LawfulEqOrd κ] in
theorem contains_eq_false_iff {m : OrderedMap κ ν} {k : κ} :
    m.contains k = false ↔ m.find? k = none := Option.isSome_eq_false_iff.trans Option.isNone_iff_eq_none

omit [Std.TransOrd κ] in
theorem mem_of_lookUp {entries : List (κ × ν)} {k : κ} {v : ν} (found : lookUp k entries = some v) :
    (k, v) ∈ entries := by
  induction entries with
  | nil => cases found
  | cons head rest ih =>
    unfold lookUp at found
    split at found
    next same =>
      cases found
      cases Std.LawfulEqOrd.eq_of_compare same
      exact List.mem_cons_self
    next => exact List.mem_cons_of_mem _ (ih found)

omit [Std.TransOrd κ] in
/-- What is found is an entry. -/
theorem mem_entries_of_find? {m : OrderedMap κ ν} {k : κ} {v : ν} (found : m.find? k = some v) :
    (k, v) ∈ m.entries :=
  mem_of_lookUp found

omit [Std.TransOrd κ] in
theorem lookUp_of_mem {entries : List (κ × ν)} {k : κ} {v : ν}
    (ascending : entries.Pairwise fun a b => compare a.1 b.1 = .lt) (member : (k, v) ∈ entries) :
    lookUp k entries = some v := by
  induction entries with
  | nil => cases member
  | cons head rest ih =>
    obtain ⟨below, ascending⟩ := List.pairwise_cons.1 ascending
    rcases List.mem_cons.1 member with rfl | member
    · rw [lookUp, if_pos Std.ReflCmp.compare_self]
    · have differ : compare head.1 k ≠ .eq := fun same => by
        have lt : compare head.1 k = .lt := below (k, v) member
        rw [same] at lt
        cases lt
      rw [lookUp, if_neg differ]
      exact ih ascending member

omit [Std.TransOrd κ] in
/-- The entries are what is found. -/
theorem find?_eq_some_iff {m : OrderedMap κ ν} {k : κ} {v : ν} :
    m.find? k = some v ↔ (k, v) ∈ m.entries :=
  ⟨mem_entries_of_find?, lookUp_of_mem m.ascending⟩

/-- Maps in which the same is found are equal. -/
theorem eq_of_find? {m m' : OrderedMap κ ν} (same : ∀ k, m.find? k = m'.find? k) : m = m' := by
  have asymm : ∀ a b : κ × ν, compare a.1 b.1 = .lt → ¬ compare b.1 a.1 = .lt := by
    intro a b below above
    rw [Std.OrientedCmp.gt_of_lt below] at above
    cases above
  have irrefl : Std.Irrefl fun a b : κ × ν => compare a.1 b.1 = .lt :=
    ⟨fun a below => asymm a a below below⟩
  have antisymm : Std.Antisymm fun a b : κ × ν => compare a.1 b.1 = .lt :=
    ⟨fun a b below above => absurd above (asymm a b below)⟩
  have entries : m.entries = m'.entries := by
    refine List.Pairwise.eq_of_mem_iff m.ascending m'.ascending ?_
    rintro ⟨k, v⟩
    rw [← find?_eq_some_iff, ← find?_eq_some_iff, same]
  cases m
  cases m'
  cases entries
  rfl

/-- Setting a key to the value it has changes nothing. -/
theorem insert_of_find? {m : OrderedMap κ ν} {k : κ} {v : ν} (found : m.find? k = some v) :
    m.insert k v = m := by
  refine eq_of_find? fun k' => ?_
  by_cases same : k = k'
  · subst same
    rw [find?_insert_self, found]
  · exact find?_insert_of_ne m v same

/-! ### A function applied to the values -/

section MapValues

variable {ν' : Type}

omit [Std.TransOrd κ] [Std.LawfulEqOrd κ] in
theorem lookUp_map (f : ν → ν') (k : κ) (entries : List (κ × ν)) :
    lookUp k (entries.map fun (k, v) => (k, f v)) = (lookUp k entries).map f := by
  induction entries with
  | nil => rfl
  | cons head rest ih =>
    rw [List.map_cons, lookUp, lookUp, ih]
    split <;> rfl

omit [Std.TransOrd κ] [Std.LawfulEqOrd κ] in
@[simp] theorem find?_mapValues (f : ν → ν') (m : OrderedMap κ ν) (k : κ) :
    (m.mapValues f).find? k = (m.find? k).map f :=
  lookUp_map f k m.entries

theorem mapValues_insert (f : ν → ν') (m : OrderedMap κ ν) (k : κ) (v : ν) :
    (m.insert k v).mapValues f = (m.mapValues f).insert k (f v) := by
  refine eq_of_find? fun k' => ?_
  rw [find?_mapValues, find?_insert, find?_insert, find?_mapValues]
  split <;> rfl

end MapValues

/-! ### Keys and totals -/

omit [Std.TransOrd κ] in
theorem mem_keys_iff {m : OrderedMap κ ν} {k : κ} : k ∈ m.keys ↔ ∃ v, m.find? k = some v := by
  simp only [keys, List.mem_map, Prod.exists, exists_and_right, exists_eq_right, find?_eq_some_iff]

omit [Std.TransOrd κ] [Std.LawfulEqOrd κ] in
theorem pairwise_keys (m : OrderedMap κ ν) : m.keys.Pairwise fun a b => compare a b = .lt :=
  List.pairwise_map.2 m.ascending

omit [Std.TransOrd κ] in
/-- Values that know their keys are listed in the order of the keys. -/
theorem map_values_eq_keys {m : OrderedMap κ ν} {key : ν → κ}
    (own : ∀ k v, m.find? k = some v → key v = k) : m.values.map key = m.keys := by
  rw [values, keys, List.map_map]
  refine List.map_congr_left ?_
  rintro ⟨k, v⟩ member
  exact own k v (find?_eq_some_iff.2 member)

omit [Std.TransOrd κ] in
theorem mem_keys_place {entries : List (κ × ν)} {k k' : κ} {v : ν} :
    k' ∈ (place k v entries).map Prod.fst ↔ k' = k ∨ k' ∈ entries.map Prod.fst := by
  induction entries with
  | nil => simp [place]
  | cons head rest ih =>
    obtain ⟨k₁, v₁⟩ := head
    unfold place
    split
    next => simp
    next same =>
      cases Std.LawfulEqOrd.eq_of_compare same
      simp
    next =>
      simp only [List.map_cons, List.mem_cons, ih]
      exact or_left_comm

/-- Setting a key adds it to the keys. -/
theorem mem_keys_insert {m : OrderedMap κ ν} {k k' : κ} {v : ν} :
    k' ∈ (m.insert k v).keys ↔ k' = k ∨ k' ∈ m.keys :=
  mem_keys_place

omit [Std.TransOrd κ] in
theorem mem_values_of_find? {m : OrderedMap κ ν} {k : κ} {v : ν} (found : m.find? k = some v) :
    v ∈ m.values :=
  List.mem_map.2 ⟨(k, v), mem_entries_of_find? found, rfl⟩

omit [Std.LawfulEqOrd κ] in
theorem mem_values_insert {m : OrderedMap κ ν} {k : κ} {v v' : ν}
    (member : v' ∈ (m.insert k v).values) : v' = v ∨ v' ∈ m.values := by
  obtain ⟨entry, placed, rfl⟩ := List.mem_map.1 member
  rcases mem_place placed with rfl | member
  · exact .inl rfl
  · exact .inr (List.mem_map_of_mem member)

omit [Std.LawfulEqOrd κ] in
/-- A key below all others is not found. -/
theorem lookUp_eq_none_of_lt {entries : List (κ × ν)} {k : κ}
    (below : ∀ entry ∈ entries, compare k entry.1 = .lt) : lookUp k entries = none := by
  induction entries with
  | nil => rfl
  | cons head rest ih =>
    rw [List.forall_mem_cons] at below
    have differ : compare head.1 k ≠ .eq := fun same => by
      rw [Std.OrientedCmp.eq_symm same] at below
      exact nomatch below.1
    rw [lookUp, if_neg differ]
    exact ih below.2

theorem filter_lookUp [DecidableEq κ] {entries : List (κ × ν)} {key : ν → κ} {k : κ}
    (ascending : entries.Pairwise fun a b => compare a.1 b.1 = .lt)
    (own : ∀ entry ∈ entries, key entry.2 = entry.1) :
    (entries.map Prod.snd).filter (key · = k) = (lookUp k entries).toList := by
  induction entries with
  | nil => rfl
  | cons head rest ih =>
    obtain ⟨below, ascending⟩ := List.pairwise_cons.1 ascending
    obtain ⟨named, own⟩ := List.forall_mem_cons.1 own
    rw [List.map_cons, List.filter_cons, named, ih ascending own, lookUp]
    by_cases same : head.1 = k
    · subst same
      -- All other keys are above this one.
      simp [lookUp_eq_none_of_lt below]
    · have differ : ¬ compare head.1 k = .eq := fun equal =>
        same (Std.LawfulEqOrd.eq_of_compare equal)
      simp [same, differ]

/-- Among values that know their keys, those of a key are what is found at it. -/
theorem filter_values [DecidableEq κ] {m : OrderedMap κ ν} {key : ν → κ} {k : κ}
    (own : ∀ k v, m.find? k = some v → key v = k) :
    m.values.filter (key · = k) = (m.find? k).toList :=
  filter_lookUp m.ascending fun entry member => own entry.1 entry.2 (find?_eq_some_iff.2 member)

omit [Std.LawfulEqOrd κ] in
theorem perm_place {entries : List (κ × ν)} {k : κ} (v : ν) (fresh : lookUp k entries = none) :
    (place k v entries).Perm ((k, v) :: entries) := by
  induction entries with
  | nil => exact .refl _
  | cons head rest ih =>
    obtain ⟨k₁, v₁⟩ := head
    unfold lookUp at fresh
    split_ifs at fresh with same
    unfold place
    split
    next => exact .refl _
    next eq => exact absurd (Std.OrientedCmp.eq_symm eq) same
    next => exact ((ih fresh).cons _).trans (.swap _ _ _)

theorem perm_entries_foldl_insert {entries : List (κ × ν)} {m : OrderedMap κ ν}
    (nodup : (entries.map Prod.fst).Nodup) (fresh : ∀ k ∈ entries.map Prod.fst, m.find? k = none) :
    (entries.foldl (fun m e => m.insert e.1 e.2) m).entries.Perm (entries ++ m.entries) := by
  induction entries generalizing m with
  | nil => exact .refl _
  | cons entry rest ih =>
    rw [List.map_cons, List.nodup_cons] at nodup
    rw [List.map_cons, List.forall_mem_cons] at fresh
    have fresh' : ∀ k ∈ rest.map Prod.fst, (m.insert entry.1 entry.2).find? k = none := by
      intro k member
      have differ : entry.1 ≠ k := fun same => nodup.1 (same ▸ member)
      rw [find?_insert_of_ne m _ differ]
      exact fresh.2 k member
    have placed : (m.insert entry.1 entry.2).entries.Perm (entry :: m.entries) :=
      perm_place entry.2 fresh.1
    exact (ih nodup.2 fresh').trans ((placed.append_left rest).trans List.perm_middle)

/-- A map of entries under different keys has these entries. -/
theorem perm_entries_ofList {entries : List (κ × ν)} (nodup : (entries.map Prod.fst).Nodup) :
    (ofList entries).entries.Perm entries := by
  have listed := perm_entries_foldl_insert nodup fun k _ => find?_empty k
  rwa [show (empty : OrderedMap κ ν).entries = [] from rfl, List.append_nil] at listed

/-! ### Where a key goes -/

omit [Std.LawfulEqOrd κ] in
/-- A key above all others goes to the end. -/
theorem place_of_above {entries : List (κ × ν)} {k : κ} (v : ν)
    (above : ∀ entry ∈ entries, compare entry.1 k = .lt) :
    place k v entries = entries ++ [(k, v)] := by
  induction entries with
  | nil => rfl
  | cons head rest ih =>
    rw [List.forall_mem_cons] at above
    have gt : compare k head.1 = .gt := Std.OrientedCmp.gt_of_lt above.1
    rw [place, gt, ih above.2, List.cons_append]

omit [Std.LawfulEqOrd κ] in
/-- Entries in ascending order are inserted one after another at the end. -/
theorem entries_foldl_insert {entries : List (κ × ν)} {m : OrderedMap κ ν}
    (ascending : (m.entries ++ entries).Pairwise fun a b => compare a.1 b.1 = .lt) :
    (entries.foldl (fun m e => m.insert e.1 e.2) m).entries = m.entries ++ entries := by
  induction entries generalizing m with
  | nil => exact (List.append_nil _).symm
  | cons entry rest ih =>
    -- Whatever was inserted so far stands before this entry.
    have above : ∀ e ∈ m.entries, compare e.1 entry.1 = .lt := fun e member =>
      (List.pairwise_append.1 ascending).2.2 e member entry List.mem_cons_self
    have placed : (m.insert entry.1 entry.2).entries = m.entries ++ [entry] :=
      place_of_above entry.2 above
    rw [List.append_cons, ← placed] at ascending
    rw [List.foldl_cons, ih ascending, placed, ← List.append_cons]

omit [Std.LawfulEqOrd κ] in
/-- A map is that of its own entries. -/
theorem ofList_entries (m : OrderedMap κ ν) : ofList m.entries = m := by
  have entries : (ofList m.entries).entries = m.entries := entries_foldl_insert m.ascending
  obtain ⟨listed, ascending⟩ := m
  exact (mk.injEq ..).mpr entries

/-- A key that has a value keeps its place. -/
theorem exists_place_of_lookUp {entries : List (κ × ν)} {k : κ} {v : ν}
    (ascending : entries.Pairwise fun a b => compare a.1 b.1 = .lt)
    (found : lookUp k entries = some v) :
    ∃ before after, entries = before ++ (k, v) :: after ∧
      ∀ v', place k v' entries = before ++ (k, v') :: after := by
  induction entries with
  | nil => cases found
  | cons head rest ih =>
    obtain ⟨k₁, v₁⟩ := head
    obtain ⟨below, ascending⟩ := List.pairwise_cons.1 ascending
    unfold lookUp at found
    split at found
    next same =>
      cases found
      cases Std.LawfulEqOrd.eq_of_compare same
      exact ⟨[], rest, rfl, fun v' => by simp [place]⟩
    next other =>
      obtain ⟨before, after, rfl, placed⟩ := ih ascending found
      -- The key is further on, so it is above the first one.
      have gt : compare k k₁ = .gt := Std.OrientedCmp.gt_of_lt (below (k, v) (by simp))
      exact ⟨(k₁, v₁) :: before, after, rfl, fun v' => by rw [place, gt, placed, List.cons_append]⟩

omit [Std.LawfulEqOrd κ] in
/-- The value of a key above all others comes last. -/
theorem values_insert_of_above {m : OrderedMap κ ν} {k : κ} (v : ν)
    (above : ∀ k' ∈ m.keys, compare k' k = .lt) :
    (m.insert k v).values = m.values ++ [v] := by
  have placed : place k v m.entries = m.entries ++ [(k, v)] :=
    place_of_above v fun entry member => above entry.1 (List.mem_map_of_mem member)
  simp [values, insert, placed]

/-- A new value of a key takes the place of the old one. -/
theorem exists_values_insert {m : OrderedMap κ ν} {k : κ} {v : ν} (found : m.find? k = some v) :
    ∃ before after, m.values = before ++ v :: after ∧
      ∀ v', (m.insert k v').values = before ++ v' :: after := by
  obtain ⟨before, after, entries, placed⟩ := exists_place_of_lookUp m.ascending found
  refine ⟨before.map Prod.snd, after.map Prod.snd, ?_, fun v' => ?_⟩
  · simp [values, entries]
  · simp [values, insert, placed]

variable {M : Type} [AddCommMonoid M]

omit [Std.LawfulEqOrd κ] in
theorem sum_place {entries : List (κ × ν)} (k : κ) (v : ν) (w : ν → M)
    (ascending : entries.Pairwise fun a b => compare a.1 b.1 = .lt) :
    ((place k v entries).map fun entry => w entry.2).sum + (lookUp k entries).elim 0 w =
      (entries.map fun entry => w entry.2).sum + w v := by
  induction entries with
  | nil => simp [place, lookUp]
  | cons head rest ih =>
    obtain ⟨k₁, v₁⟩ := head
    obtain ⟨below, ascending⟩ := List.pairwise_cons.1 ascending
    unfold place
    split
    next lt =>
      -- The key goes in front of all others, so it replaces nothing.
      have absent : lookUp k ((k₁, v₁) :: rest) = none :=
        lookUp_eq_none_of_lt (List.forall_mem_cons.2
          ⟨lt, fun entry member => Std.TransCmp.lt_trans lt (below entry member)⟩)
      rw [absent, List.map_cons, List.sum_cons, Option.elim_none, add_zero, add_comm]
    next same =>
      rw [lookUp, if_pos (Std.OrientedCmp.eq_symm same), Option.elim_some]
      simp only [List.map_cons, List.sum_cons]
      rw [add_right_comm, add_comm (w v), add_right_comm]
    next gt =>
      have differ : compare k₁ k ≠ .eq := fun same => by
        rw [Std.OrientedCmp.eq_symm same] at gt
        cases gt
      rw [lookUp, if_neg differ]
      simp only [List.map_cons, List.sum_cons]
      rw [add_assoc, ih ascending, add_assoc]

omit [Std.LawfulEqOrd κ] in
/-- Setting a key changes a total over the values by the new value less the old one. -/
theorem sum_values_insert (m : OrderedMap κ ν) (k : κ) (v : ν) (w : ν → M) :
    ((m.insert k v).values.map w).sum + (m.find? k).elim 0 w = (m.values.map w).sum + w v := by
  have total := sum_place k v w m.ascending
  simpa [values, insert, find?, Function.comp_def] using total

end IncomeTax.OrderedMap
