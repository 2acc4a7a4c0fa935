import IncomeTax.Json.Record
import IncomeTax.Proofs.Json.Text
import Mathlib.Data.List.Nodup

/-!
# Records read back

A record is written as an object that has the fields in their order, each at most once. Where a
field may be missing, it is left out or null exactly when there is no value, so that reading it
finds the value or none again.

## Main definitions

* `Json.ReadsBack` — what is written is read, and is never null
* `Json.RoundTrips` — a value is read back from its document and from both texts of it

## Main results

* `Json.bind_record?_object` — an object with fields of a record is read as the record
* `Json.ReadsBack.list`, `Json.ReadsBack.optional`, `Json.ReadsBack.orNull?_ofOption` — lists, and
  fields that may be left out or null
-/

namespace IncomeTax

namespace Json

variable {α : Type} {write : α → Json} {read : Json → Option α} {settle : α → α} {a b : α}
  {names : List String} {items : List Json} {members : List (String × Json)}

/-- What is written is read as what `settle` makes of it, and is never null. -/
structure ReadsBack (write : α → Json) (read : Json → Option α) (settle : α → α) : Prop where
  present : ∀ a, write a ≠ .null
  read_write : ∀ a, read (write a) = some (settle a)

/-- The first value is written as a document, on one line and over several lines, and from each of
them the second one is read. -/
structure RoundTrips (write : α → Json) (read : Json → Option α) (a b : α) : Prop where
  document : read (write a) = some b
  compact : (parse? (write a).compact).bind read = some b
  pretty : (parse? (write a).pretty).bind read = some b

theorem RoundTrips.of_plain (plain : (write a).Plain) (document : read (write a) = some b) :
    RoundTrips write read a b where
  document := document
  compact := by rw [plain.parse?_compact, Option.bind_some, document]
  pretty := by rw [plain.parse?_pretty, Option.bind_some, document]

/-! ### Plain documents -/

@[simp] theorem plain_null : Plain .null := .null

@[simp] theorem plain_bool (b : Bool) : Plain (.bool b) := .bool b

@[simp] theorem plain_string (s : String) : Plain (.string s) := .string s

theorem plain_ofNat {n : ℕ} (fits : n < 2 ^ 64) : (ofNat n).Plain := by
  apply Plain.whole n <;> omega

@[simp] theorem plain_array_iff : (array items).Plain ↔ ∀ item ∈ items, item.Plain := by
  constructor
  · rintro ⟨⟩
    assumption
  · exact .array items

@[simp] theorem plain_object_iff :
    (object members).Plain ↔ ∀ j ∈ members.map Prod.snd, j.Plain := by
  rw [List.forall_mem_map]
  constructor
  · rintro ⟨⟩
    assumption
  · exact .object members

@[simp] theorem plain_ofList (each : ∀ a, (write a).Plain) (values : List α) :
    (ofList write values).Plain := by
  simp [ofList, each]

@[simp] theorem plain_ofOption (each : ∀ a, (write a).Plain) (o : Option α) :
    (ofOption write o).Plain := by
  cases o with
  | none => exact plain_null
  | some a => exact each a

/-! ### Fields -/

/-- An object that has fields of a record in their order is read as the record. -/
theorem bind_record?_object (distinct : names.Nodup)
    (known : (members.map Prod.fst).Sublist names) (rest : Record → Option α) :
    ((object members).record? names >>= rest) = rest ⟨false, members⟩ := by
  -- Members under one name are counted by the names, and the names are distinct.
  have once : ∀ name ∈ names, (members.filter (·.1 == name)).length ≤ 1 := by
    intro name _
    have own := List.nodup_iff_count_le_one.1 (known.nodup distinct) name
    rwa [List.count, List.countP_map, List.countP_eq_length_filter] at own
  rw [record?, if_pos (List.all_eq_true.2 fun name member => decide_eq_true (once name member))]
  rfl

theorem names_optionalMember (name : String) (write : α → Json) (o : Option α) :
    ((optionalMember name write o).map Prod.fst).Sublist [name] := by
  cases o with
  | none => exact List.nil_sublist _
  | some a => exact List.Sublist.refl _

@[simp] theorem map_snd_optionalMember (name : String) (write : α → Json) (o : Option α) :
    (optionalMember name write o).map Prod.snd = o.toList.map write := by
  cases o <;> rfl

@[simp] theorem lookup_member (name name' : String) (j : Json) (members : List (String × Json)) :
    ((name', j) :: members).lookup name = if name = name' then some j else members.lookup name := by
  rw [List.lookup_cons]
  by_cases same : name = name'
  · simp [same]
  · rw [beq_eq_false_iff_ne.2 same, if_neg same]

@[simp] theorem lookup_optionalMember (name name' : String) (write : α → Json) (o : Option α) :
    (optionalMember name' write o).lookup name = if name = name' then o.map write else none := by
  cases o <;> simp [optionalMember]

theorem orNull?_of_ne_null {j : Json} (present : j ≠ .null) (read : Json → Option α) :
    j.orNull? read = (read j).map some := by
  cases j <;> first | rfl | exact absurd rfl present

namespace ReadsBack

/-- A field that is left out when there is no value. -/
theorem optional (back : ReadsBack write read settle) (o : Option α) :
    (o.map write).elim (some none) (orNull? read) = some (o.map settle) := by
  cases o with
  | none => rfl
  | some a => simp [orNull?_of_ne_null (back.present a), back.read_write]

/-- A field that is null when there is no value. -/
theorem orNull?_ofOption (back : ReadsBack write read settle) (o : Option α) :
    (ofOption write o).orNull? read = some (o.map settle) := by
  cases o with
  | none => rfl
  | some a => simp [ofOption, orNull?_of_ne_null (back.present a), back.read_write]

/-- A list of values. -/
theorem list (back : ReadsBack write read settle) :
    ReadsBack (ofList write) (items? read) (List.map settle) where
  present _ := nofun
  read_write values := by
    have each : read ∘ write = fun a => pure (settle a) := funext back.read_write
    rw [ofList, items?, List.mapM_map, each, List.mapM_pure]
    rfl

/-- A case written as its name. -/
theorem ofName {name : α → String} {ofName? : String → Option α}
    (known : ∀ a, ofName? (name a) = some a) :
    ReadsBack (fun a => .string (name a)) (fun j => j.name?.bind ofName?) id where
  present _ := nofun
  read_write := known

theorem text : ReadsBack .string text? id where
  present _ := nofun
  read_write _ := rfl

end ReadsBack

end Json

namespace Record

variable {α : Type} {members : List (String × Json)}

@[simp] theorem required_object (name : String) (read : Json → Option α) :
    (Record.mk false members).required name read = (members.lookup name).bind read := rfl

@[simp] theorem defaulted_object (name : String) (default : α) (read : Json → Option α) :
    (Record.mk false members).defaulted name default read =
      (members.lookup name).elim (some default) read := by
  unfold defaulted field?
  cases members.lookup name <;> rfl

@[simp] theorem optional_object (name : String) (read : Json → Option α) :
    (Record.mk false members).optional name read =
      (members.lookup name).elim (some none) (Json.orNull? read) := by
  unfold optional field?
  cases members.lookup name <;> rfl

@[simp] theorem nullable_object (name : String) (read : Json → Option α) :
    (Record.mk false members).nullable name read =
      (members.lookup name).elim (some none) (Json.orNull? read) := by
  unfold nullable field?
  cases members.lookup name <;> rfl

end Record

end IncomeTax
