/-!
# Finite maps in key order

A finite map is the list of its entries in strictly ascending key order. A map therefore has one
representation: two maps with the same values at the same keys are equal, and every listing of a map
is in key order.

## Main definitions

* `OrderedMap` — the entries, with the proof that their keys ascend
* `OrderedMap.find?`, `insert`, `erase`, `ofList` — look-up and change
* `OrderedMap.mapValues` — a map with a function applied to its values
* `OrderedMap.keys`, `values`, `size` — listings

## Main results

* `find?_empty`, `find?_insert`, `find?_erase` — what a change does to look-up
-/

namespace IncomeTax

/-- A finite map, as its entries in strictly ascending key order. -/
structure OrderedMap (κ ν : Type) [Ord κ] where
  entries : List (κ × ν)
  ascending : entries.Pairwise fun a b => compare a.1 b.1 = .lt

namespace OrderedMap

variable {κ ν : Type} [Ord κ]

instance [DecidableEq κ] [DecidableEq ν] : DecidableEq (OrderedMap κ ν) := fun a b =>
  if same : a.entries = b.entries then
    .isTrue (by cases a; cases b; cases same; rfl)
  else .isFalse fun equal => same (equal ▸ rfl)

/-- The map without entries. -/
def empty : OrderedMap κ ν := ⟨[], .nil⟩

instance : EmptyCollection (OrderedMap κ ν) := ⟨empty⟩

instance : Inhabited (OrderedMap κ ν) := ⟨empty⟩

/-- The value a list of entries has for a key. -/
def lookUp (k : κ) : List (κ × ν) → Option ν
  | [] => none
  | (k', v) :: rest => if compare k' k = .eq then some v else lookUp k rest

/-- The value at a key. -/
def find? (m : OrderedMap κ ν) (k : κ) : Option ν := lookUp k m.entries

/-- Whether a key has a value. -/
def contains (m : OrderedMap κ ν) (k : κ) : Bool := (m.find? k).isSome

/-- The entries with the value at one key set, in key order. -/
def place (k : κ) (v : ν) : List (κ × ν) → List (κ × ν)
  | [] => [(k, v)]
  | (k', v') :: rest =>
    match compare k k' with
    | .lt => (k, v) :: (k', v') :: rest
    | .eq => (k, v) :: rest
    | .gt => (k', v') :: place k v rest

/-- An entry of the result is the new one or an old one. -/
theorem mem_place {k : κ} {v : ν} {e : κ × ν} {entries : List (κ × ν)}
    (member : e ∈ place k v entries) : e = (k, v) ∨ e ∈ entries := by
  induction entries with
  | nil => exact .inl (List.mem_singleton.1 member)
  | cons head rest ih =>
    obtain ⟨k', v'⟩ := head
    simp only [place] at member
    split at member
    · exact (List.mem_cons.1 member).imp_right id
    · exact (List.mem_cons.1 member).imp_right (List.mem_cons_of_mem _)
    · rcases List.mem_cons.1 member with rfl | member
      · exact .inr List.mem_cons_self
      · exact (ih member).imp_right (List.mem_cons_of_mem _)

variable [Std.TransOrd κ]

theorem ascending_place (k : κ) (v : ν) {entries : List (κ × ν)}
    (ascending : entries.Pairwise fun a b => compare a.1 b.1 = .lt) :
    (place k v entries).Pairwise fun a b => compare a.1 b.1 = .lt := by
  induction entries with
  | nil => exact List.pairwise_singleton _ _
  | cons head rest ih =>
    obtain ⟨k', v'⟩ := head
    obtain ⟨below, ascending⟩ := List.pairwise_cons.1 ascending
    simp only [place]
    split
    next lt =>
      refine List.pairwise_cons.2 ⟨fun e member => ?_, List.pairwise_cons.2 ⟨below, ascending⟩⟩
      rcases List.mem_cons.1 member with rfl | member
      · exact lt
      · exact Std.TransCmp.lt_trans lt (below e member)
    next eq =>
      refine List.pairwise_cons.2 ⟨fun e member => ?_, ascending⟩
      exact Std.TransCmp.lt_of_eq_of_lt eq (below e member)
    next gt =>
      refine List.pairwise_cons.2 ⟨fun e member => ?_, ih ascending⟩
      rcases mem_place member with rfl | member
      · exact Std.OrientedCmp.gt_iff_lt.1 gt
      · exact below e member

/-- The map with the value at one key set. -/
def insert (m : OrderedMap κ ν) (k : κ) (v : ν) : OrderedMap κ ν :=
  ⟨place k v m.entries, ascending_place k v m.ascending⟩

/-- The map with a value at a key that has none yet; a key that has one keeps it. -/
def insertNew (m : OrderedMap κ ν) (k : κ) (v : ν) : OrderedMap κ ν :=
  if m.contains k then m else m.insert k v

omit [Std.TransOrd κ] in
/-- The map without the value at one key. -/
def erase (m : OrderedMap κ ν) (k : κ) : OrderedMap κ ν :=
  ⟨m.entries.filter fun e => compare e.1 k != .eq, m.ascending.filter _⟩

/-- The map of a list of entries; of several at one key the last counts. -/
def ofList (entries : List (κ × ν)) : OrderedMap κ ν :=
  entries.foldl (fun m e => m.insert e.1 e.2) empty

omit [Std.TransOrd κ]

/-- The map with each value changed. -/
def mapValues {ν' : Type} (f : ν → ν') (m : OrderedMap κ ν) : OrderedMap κ ν' where
  entries := m.entries.map fun (k, v) => (k, f v)
  ascending := List.pairwise_map.2 m.ascending

/-- The keys, in order. -/
def keys (m : OrderedMap κ ν) : List κ := m.entries.map Prod.fst

/-- The values, in key order. -/
def values (m : OrderedMap κ ν) : List ν := m.entries.map Prod.snd

/-- The number of entries. -/
def size (m : OrderedMap κ ν) : Nat := m.entries.length

/-- Whether there are no entries. -/
def isEmpty (m : OrderedMap κ ν) : Bool := m.entries.isEmpty

@[simp] theorem find?_empty (k : κ) : (empty : OrderedMap κ ν).find? k = none := rfl

theorem lookUp_place [Std.TransOrd κ] (k k' : κ) (v : ν) (entries : List (κ × ν)) :
    lookUp k' (place k v entries) =
      if compare k k' = .eq then some v else lookUp k' entries := by
  induction entries with
  | nil => rfl
  | cons head rest ih =>
    obtain ⟨k₁, v₁⟩ := head
    simp only [place]
    split
    next => rfl
    next eq =>
      simp only [lookUp]
      by_cases same : compare k k' = .eq
      · simp [same]
      · have other : compare k₁ k' ≠ .eq := fun h => same (Std.TransCmp.eq_trans eq h)
        simp [same, other]
    next gt =>
      simp only [lookUp, ih]
      by_cases same : compare k k' = .eq
      · have other : compare k₁ k' ≠ .eq := fun h => by
          have := Std.TransCmp.eq_trans same (Std.OrientedCmp.eq_symm h)
          rw [gt] at this
          cases this
        simp [same, other]
      · simp [same]

/-- Setting one key changes the look-up at that key only. -/
theorem find?_insert [Std.TransOrd κ] (m : OrderedMap κ ν) (k k' : κ) (v : ν) :
    (m.insert k v).find? k' = if compare k k' = .eq then some v else m.find? k' :=
  lookUp_place k k' v m.entries

theorem lookUp_filter [Std.TransOrd κ] (k k' : κ) (entries : List (κ × ν)) :
    lookUp k' (entries.filter fun e => compare e.1 k != .eq) =
      if compare k k' = .eq then none else lookUp k' entries := by
  induction entries with
  | nil => simp [lookUp]
  | cons head rest ih =>
    obtain ⟨k₁, v₁⟩ := head
    by_cases gone : compare k₁ k = .eq
    · rw [List.filter_cons_of_neg (by simp [gone]), ih]
      by_cases same : compare k k' = .eq
      · simp [same]
      · have other : compare k₁ k' ≠ .eq := fun h =>
          same (Std.TransCmp.eq_trans (Std.OrientedCmp.eq_symm gone) h)
        simp [same, lookUp, other]
    · rw [List.filter_cons_of_pos (by simp [gone])]
      simp only [lookUp, ih]
      by_cases same : compare k k' = .eq
      · have other : compare k₁ k' ≠ .eq := fun h =>
          gone (Std.TransCmp.eq_trans h (Std.OrientedCmp.eq_symm same))
        simp [same, other]
      · simp [same]

/-- Erasing one key changes the look-up at that key only. -/
theorem find?_erase [Std.TransOrd κ] (m : OrderedMap κ ν) (k k' : κ) :
    (m.erase k).find? k' = if compare k k' = .eq then none else m.find? k' :=
  lookUp_filter k k' m.entries

end OrderedMap

end IncomeTax
