import IncomeTax.Json.Basic

/-!
# Records in documents

A record with named fields is written as an object, or as the list of its fields in their order.
Members with other names are ignored. A field named twice makes the object unreadable, and so does
a list that is longer than the fields.

A field that is missing can be an error, or stand for a default. A field with a default may be
missing from the end of a list too.

## Main definitions

`Json.record?` finds the fields; `Record.required`, `Record.defaulted`, `Record.optional` and
`Record.nullable` read one of them, each with its own rule for a missing field and for null.
-/

namespace IncomeTax

/-- The fields found in a document, by name. -/
structure Record where
  positional : Bool
  fields : List (String × Json)

/-- The fields of a record, given their names in order. -/
def Json.record? (names : List String) : Json → Option Record
  | .object members =>
    if names.all fun name => (members.filter (·.1 == name)).length ≤ 1 then
      some ⟨false, members⟩
    else none
  | .array items => if items.length ≤ names.length then some ⟨true, names.zip items⟩ else none
  | _ => none

/-- The members that no later one of the same name overrides. -/
def Json.dropOverridden (members : List (String × Json)) : List (String × Json) :=
  match members with
  | [] => []
  | m :: rest => if rest.any (·.1 == m.1) then dropOverridden rest else m :: dropOverridden rest

namespace Record

variable {α : Type}

/-- The field with the given name. -/
def field? (r : Record) (name : String) : Option Json := r.fields.lookup name

/-- A field that must be there. -/
def required (r : Record) (name : String) (read : Json → Option α) : Option α :=
  (r.field? name).bind read

/-- A field with a default; null does not stand for the default. -/
def defaulted (r : Record) (name : String) (default : α) (read : Json → Option α) : Option α :=
  match r.field? name with
  | none => some default
  | some j => read j

/-- A field that may be missing or null. -/
def optional (r : Record) (name : String) (read : Json → Option α) : Option (Option α) :=
  match r.field? name with
  | none => some none
  | some j => j.orNull? read

/-- A field that may be null or missing from an object, but not from a list. -/
def nullable (r : Record) (name : String) (read : Json → Option α) : Option (Option α) :=
  match r.field? name with
  | none => if r.positional then none else some none
  | some j => j.orNull? read

end Record

end IncomeTax
