import IncomeTax.Json.Amount
import IncomeTax.Proofs.Calendar.Date
import IncomeTax.Proofs.Decimal.Text
import IncomeTax.Proofs.Json.Record
import IncomeTax.Proofs.OrderedMap

/-!
# Amounts, dates and maps read back

An amount is read back with its scale, a date and a period as they are. A map is read back key by
key when each key is found by its name.
-/

namespace IncomeTax

namespace Decimal

@[simp] theorem plain_toJson (a : Decimal) : a.toJson.Plain := Json.plain_string _

theorem readsBack : Json.ReadsBack toJson ofJson? unsignedZero where
  present _ := nofun
  read_write := ofText?_toText

end Decimal

namespace Date

@[simp] theorem plain_toJson (d : Date) : d.toJson.Plain := Json.plain_string _

theorem readsBack : Json.ReadsBack toJson ofJson? id where
  present _ := nofun
  read_write := ofText?_toText

end Date

namespace Period

@[simp] theorem plain_toJson (p : Period) : p.toJson.Plain := by simp [toJson]

theorem readsBack : Json.ReadsBack toJson ofJson? id where
  present _ := nofun
  read_write p := by
    rw [ofJson?, toJson, Json.bind_record?_object (by decide)]
    · simp [Date.readsBack.read_write]
    · exact .refl _

end Period

namespace OrderedMap

variable {κ ν : Type} [Ord κ]

@[simp] theorem plain_toJson {write : ν → Json} (each : ∀ v, (write v).Plain) (name : κ → String)
    (m : OrderedMap κ ν) : (m.toJson name write).Plain := by
  rw [toJson, Json.plain_object_iff, List.map_map, List.forall_mem_map]
  intro e _
  exact each e.2

theorem readsBack [Std.TransOrd κ] {name : κ → String} {key? : String → Option κ}
    {write : ν → Json} {read : Json → Option ν} {settle : ν → ν}
    (known : ∀ k, key? (name k) = some k) (back : Json.ReadsBack write read settle) :
    Json.ReadsBack (toJson name write) (ofJson? key? read) (mapValues settle) where
  present _ := nofun
  read_write m := by
    have each : (fun (name, j) => do
        let k ← key? name
        let v ← read j
        return (k, v)) ∘ (fun (k, v) => (name k, write v)) =
          fun e : κ × ν => pure (e.1, settle e.2) := by
      funext e
      simp [known, back.read_write]
    rw [toJson, ofJson?, List.mapM_map, each, List.mapM_pure]
    exact congrArg some (m.mapValues settle).ofList_entries

end OrderedMap

namespace Json

@[simp] theorem plain_word32 (n : UInt32) : (ofNat n.toNat).Plain :=
  plain_ofNat (n.toNat_lt.trans (by decide))

theorem readsBack_word32 : ReadsBack (fun n : UInt32 => ofNat n.toNat) word32? id where
  present _ := nofun
  read_write n := by
    have small : n.toNat < Nat.pow 2 32 := n.toNat_lt
    have natural : (ofNat n.toNat).natural? = some n.toNat := rfl
    rw [word32?, natural]
    simp [small]

end Json

end IncomeTax
