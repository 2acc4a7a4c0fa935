import IncomeTax.Calendar.Period
import IncomeTax.Decimal.Text
import IncomeTax.Json.Record
import IncomeTax.OrderedMap

/-!
# Amounts, dates and maps in documents

An amount is written as a text with its exact scale. It is read from such a text, from a whole
number, or from a double-precision number by way of its shortest decimal. A date is a text, a period
a record, and a map an object with a member for each key; of repeated keys the last counts.
-/

namespace IncomeTax

namespace Decimal

/-- The amount as a text. -/
def toJson (a : Decimal) : Json := .string a.toText

/-- The amount of a text or a number. -/
def ofJson? : Json → Option Decimal
  | .string s => ofText? s
  | .number (.whole n) => ofInt? n
  | .number (.real x) => ofText? x.toText
  | _ => none

end Decimal

namespace Date

/-- The date as a text. -/
def toJson (d : Date) : Json := .string d.toText

/-- The date of a text. -/
def ofJson? (j : Json) : Option Date := j.text?.bind ofText?

end Date

namespace Period

/-- The period as a record. -/
def toJson (p : Period) : Json :=
  .object [("start", p.start.toJson), ("end", p.finish.toJson)]

/-- The period of a record. -/
def ofJson? (j : Json) : Option Period := do
  let r ← j.record? ["start", "end"]
  let start ← r.required "start" Date.ofJson?
  let finish ← r.required "end" Date.ofJson?
  return ⟨start, finish⟩

end Period

namespace OrderedMap

variable {κ ν : Type} [Ord κ]

/-- The map as an object, in key order. -/
def toJson (name : κ → String) (write : ν → Json) (m : OrderedMap κ ν) : Json :=
  .object (m.entries.map fun (k, v) => (name k, write v))

/-- The map of an object. -/
def ofJson? [Std.TransOrd κ] (key? : String → Option κ) (read : Json → Option ν) :
    Json → Option (OrderedMap κ ν)
  | .object members => do
    let entries ← members.mapM fun (name, j) => do
      let k ← key? name
      let v ← read j
      return (k, v)
    return ofList entries
  | _ => none

end OrderedMap

/-- The number of at most 32 bits of a document. -/
def Json.word32? (j : Json) : Option UInt32 := do
  let n ← j.natural?
  if n < Nat.pow 2 32 then some (UInt32.ofNat n) else none

end IncomeTax
