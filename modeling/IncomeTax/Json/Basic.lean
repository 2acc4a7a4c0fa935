import IncomeTax.Binary64

/-!
# Documents

A document is a tree of null, truth values, numbers, texts, lists and objects. Numbers without a
fraction or a power of ten are whole when they fit in 64 bits; any other number is a
double-precision one. Objects keep their members in the order in which they stand, repeated names
included, since it depends on the reader whether a repetition matters.

Some well-formed text stands for no value: a number out of range, or half of a surrogate pair. It
is kept as `Json.unreadable`, which a reader may skip but never use.
-/

namespace IncomeTax

/-- A number of a document. -/
inductive Json.Number where
  | whole (n : Int)
  | real (x : Binary64)
  deriving DecidableEq

/-- A document. -/
inductive Json where
  | null
  | bool (b : Bool)
  | number (n : Json.Number)
  | string (s : String)
  | array (items : List Json)
  | object (members : List (String × Json))
  | unreadable

namespace Json

instance : Inhabited Json := ⟨.null⟩

/-- A whole number as a document. -/
def ofInt (n : Int) : Json := .number (.whole n)

/-- A natural number as a document. -/
def ofNat (n : Nat) : Json := ofInt n

/-- The value or null. -/
def ofOption {α : Type} (write : α → Json) : Option α → Json
  | none => .null
  | some a => write a

/-- The list of the values. -/
def ofList {α : Type} (write : α → Json) (values : List α) : Json := .array (values.map write)

/-- A member that is left out when there is no value. -/
def optionalMember {α : Type} (name : String) (write : α → Json) :
    Option α → List (String × Json)
  | none => []
  | some a => [(name, write a)]

/-- The text, if the document is one. -/
def text? : Json → Option String
  | .string s => some s
  | _ => none

/-- The truth value, if the document is one. -/
def flag? : Json → Option Bool
  | .bool b => some b
  | _ => none

/-- The whole number, if the document is one. -/
def whole? : Json → Option Int
  | .number (.whole n) => some n
  | _ => none

/-- The natural number, if the document is one. -/
def natural? (j : Json) : Option Nat := j.whole?.bind Int.toNat?

/-- The values of a list, if every item can be read. -/
def items? {α : Type} (read : Json → Option α) : Json → Option (List α)
  | .array items => items.mapM read
  | _ => none

/-- The name of a case without contents: its text, or an object with the name as its only member
and null as its value. -/
def name? : Json → Option String
  | .string s => some s
  | .object [(name, .null)] => some name
  | _ => none

/-- The value read from the document, with null read as none. -/
def orNull? {α : Type} (read : Json → Option α) : Json → Option (Option α)
  | .null => some none
  | j => (read j).map some

end Json

end IncomeTax
