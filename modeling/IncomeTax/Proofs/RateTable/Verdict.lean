import IncomeTax.Proofs.OrderedMap

/-!
# Verdicts by key

Rate tables are put together key by key. One map holds what is good so far, another the faults of
the keys given up. Together they give a verdict on each key: nothing is known of it, it is good, or
it has a fault. A fault is final, and it is the first one found.

Pieces come in any order of their keys, and each changes the verdict on its own key only. So the
verdict on a key after a run over all pieces is the one after a run over the pieces of that key.

## Main definitions

* `Verdict` — what is known of a key
* `Verdict.of` — the verdict of two maps
* `Verdict.next` — the verdict after one more piece
* `Verdict.judge` — the verdict when what is good is judged once more
* `Verdict.Apart` — no key is in both maps

## Main results

* `Verdict.of_insert`, `Verdict.of_giveUp` — what a change of the maps does to the verdicts
* `Verdict.foldl_next_some` — the pieces of one key
* `Verdict.exists_foldlM_of_step` — a run seen at one key
-/

namespace IncomeTax

/-- What is known of a key: nothing, what is good, or the fault. -/
abbrev Verdict (φ α : Type) : Type := Option (Except φ α)

namespace Verdict

section Maps

variable {κ α φ : Type} [Ord κ]

/-- The verdict of a map of what is good and a map of faults, in which a fault counts first. -/
def of (good : OrderedMap κ α) (bad : OrderedMap κ φ) (k : κ) : Verdict φ α :=
  match bad.find? k with
  | some fault => some (.error fault)
  | none => (good.find? k).map .ok

/-- The verdict after one more piece: the piece starts what nothing is known of, extends what is
good, and leaves a fault as it is. -/
def next (found : Verdict φ α) (start : Verdict φ α) (extend : α → Except φ α) : Verdict φ α :=
  match found with
  | none => start
  | some outcome => some (outcome.bind extend)

/-- The verdict when what is good is judged once more; a fault stays what it is. -/
def judge {β : Type} (found : Verdict φ α) (again : α → Verdict φ β) : Verdict φ β :=
  match found with
  | none => none
  | some (.ok a) => again a
  | some (.error fault) => some (.error fault)

/-- What is good has no fault. -/
def Apart (good : OrderedMap κ α) (bad : OrderedMap κ φ) : Prop :=
  ∀ k v, good.find? k = some v → bad.find? k = none

variable {good : OrderedMap κ α} {bad : OrderedMap κ φ} {k k' : κ} {v : α} {fault : φ}

theorem of_eq_none_iff : of good bad k = none ↔ good.find? k = none ∧ bad.find? k = none := by
  unfold of
  cases bad.find? k <;> simp

theorem of_eq_error_iff : of good bad k = some (.error fault) ↔ bad.find? k = some fault := by
  unfold of
  cases bad.find? k <;> simp

theorem Apart.of_eq_ok_iff (apart : Apart good bad) :
    of good bad k = some (.ok v) ↔ good.find? k = some v := by
  unfold of
  cases found : bad.find? k with
  | none => simp
  | some fault =>
    have absent : good.find? k ≠ some v := fun kept => by
      rw [apart k v kept] at found
      cases found
    simp [absent]

theorem apart_empty : Apart (.empty : OrderedMap κ α) (.empty : OrderedMap κ φ) := nofun

variable [Std.TransOrd κ] [Std.LawfulEqOrd κ] [DecidableEq κ]

/-- Setting a key without a fault makes it good. -/
theorem of_insert (free : bad.find? k = none) :
    of (good.insert k v) bad k' = if k = k' then some (.ok v) else of good bad k' := by
  by_cases same : k = k'
  · subst same
    simp [of, free]
  · rw [if_neg same, of, of, OrderedMap.find?_insert_of_ne good v same]

/-- Giving up a key leaves its first fault. -/
theorem of_giveUp : of (good.erase k) (bad.insertNew k fault) k' =
    if k = k' then some (.error ((bad.find? k).getD fault)) else of good bad k' := by
  by_cases same : k = k'
  · subst same
    simp [of]
  · rw [if_neg same, of, of, OrderedMap.find?_insertNew_of_ne bad fault same,
      OrderedMap.find?_erase_of_ne good same]

omit [DecidableEq κ] in
theorem Apart.insert (apart : Apart good bad) (free : bad.find? k = none) :
    Apart (good.insert k v) bad := by
  intro k' v' found
  rcases OrderedMap.find?_insert_eq_some_iff.1 found with ⟨rfl, -⟩ | ⟨-, found⟩
  · exact free
  · exact apart k' v' found

theorem Apart.giveUp (apart : Apart good bad) :
    Apart (good.erase k) (bad.insertNew k fault) := by
  intro k' v' found
  by_cases same : k = k'
  · subst same
    rw [OrderedMap.find?_erase_self] at found
    cases found
  · rw [OrderedMap.find?_erase_of_ne good same] at found
    rw [OrderedMap.find?_insertNew_of_ne bad fault same]
    exact apart k' v' found

end Maps

/-! ### Runs -/

/-- Once something is known, all further pieces extend it; a fault is final. -/
theorem foldl_next_some {ι α φ : Type} (start : ι → Verdict φ α) (extend : ι → α → Except φ α)
    (items : List ι) (outcome : Except φ α) :
    items.foldl (fun found item => next found (start item) (extend item)) (some outcome) =
      some (outcome.bind fun a => items.foldlM (fun a item => extend item a) a) := by
  induction items generalizing outcome with
  | nil => cases outcome <;> rfl
  | cons item rest ih =>
    refine (ih (outcome.bind (extend item))).trans ?_
    cases outcome <;> rfl

section Runs

variable {σ ι ε κ ω : Type} {step : σ → ι → Except ε σ} {view : σ → κ → ω} {own : κ → ι → Bool}
  {change : κ → ω → ι → ω} {sound : σ → Prop} {items items' : List ι} {item : ι} {s s' : σ}

theorem foldlM_append_eq_ok_iff : (items ++ items').foldlM step s = .ok s' ↔
    ∃ middle, items.foldlM step s = .ok middle ∧ items'.foldlM step middle = .ok s' := by
  rw [List.foldlM_append]
  cases items.foldlM step s <;> simp [bind, Except.bind]

theorem foldlM_cons_eq_ok_iff : (item :: items).foldlM step s = .ok s' ↔
    ∃ middle, step s item = .ok middle ∧ items.foldlM step middle = .ok s' := by
  rw [List.foldlM_cons]
  cases step s item <;> simp [bind, Except.bind]

/-- What holds at the start and survives every step holds at the end of a run. -/
theorem foldlM_induction {motive : σ → Prop} (start : motive s)
    (one : ∀ s item s', motive s → step s item = .ok s' → motive s')
    (run : items.foldlM step s = .ok s') : motive s' := by
  induction items generalizing s with
  | nil =>
    cases run
    exact start
  | cons item rest ih =>
    obtain ⟨middle, stepped, run⟩ := foldlM_cons_eq_ok_iff.1 run
    exact ih (one s item middle start stepped) run

/-- When each piece changes what is seen at its own key only, a run changes what is seen at a key as
the pieces of that key do. -/
theorem exists_foldlM_of_step
    (one : ∀ item ∈ items, ∀ s, sound s → ∃ s', step s item = .ok s' ∧ sound s' ∧
      ∀ k, view s' k = if own k item then change k (view s k) item else view s k)
    (start : sound s) : ∃ s', items.foldlM step s = .ok s' ∧ sound s' ∧
      ∀ k, view s' k = (items.filter (own k)).foldl (change k) (view s k) := by
  induction items generalizing s with
  | nil => exact ⟨s, rfl, start, fun k => rfl⟩
  | cons item rest ih =>
    rw [List.forall_mem_cons] at one
    obtain ⟨s₁, stepped, sound₁, seen₁⟩ := one.1 s start
    obtain ⟨s₂, run, sound₂, seen₂⟩ := ih one.2 sound₁
    refine ⟨s₂, ?_, sound₂, fun k => ?_⟩
    · rw [List.foldlM_cons, stepped]
      exact run
    · rw [seen₂, seen₁, List.filter_cons]
      by_cases mine : own k item <;> simp [mine]

end Runs

end Verdict

end IncomeTax
