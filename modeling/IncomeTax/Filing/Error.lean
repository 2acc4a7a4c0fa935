import IncomeTax.Declaration.Basic
import IncomeTax.RateTable.Published
import IncomeTax.Rule

/-!
# What stops a filing

A declaration is stopped by its own violations, by misuse of its steps, by the lack of a usable rate
table, or by an amount that outgrows its range.
-/

namespace IncomeTax

/-- What stops a declaration. An overflow is no answer of a check: it breaks a step off where the
amount is calculated. -/
inductive FilingError where
  | invalid (errors : List ValidationError)
  | state (e : StateError)
  | lookup (e : LookupError)
  | overflow
  deriving DecidableEq

namespace FilingError

/-- The wording of the error. -/
def message : FilingError → String
  | .invalid errors => "declaration has " ++ toString errors.length ++ " validation error(s)"
  | .state e => e.message
  | .lookup e => e.message
  | .overflow => "an amount is out of range"

/-- The value, or an overflow. -/
def ofOption {α : Type} : Option α → Except FilingError α
  | some a => .ok a
  | none => .error .overflow

/-- The value, or the misuse. -/
def ofState {α : Type} : Except StateError α → Except FilingError α
  | .ok a => .ok a
  | .error e => .error (.state e)

end FilingError

end IncomeTax
