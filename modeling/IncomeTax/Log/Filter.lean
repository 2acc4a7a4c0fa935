import IncomeTax.Log.Directive

/-!
# Log filters

A log filter is a list of directives separated by commas, where empty ones are passed over. Of the
directives that concern an event the most specific one says whether it is logged: a longer target
comes before a shorter one, and a field before none. Of two directives for the same target and field
the last one counts.

No event happens in a span, so directives for spans and for values of fields log nothing.

## Main definitions

* `LogFilter.ofString` — the filter of a text
* `LogFilter.logs` — whether an event is logged
-/

namespace IncomeTax

/-- What is logged. -/
structure LogFilter where
  directives : List LogDirective
  deriving DecidableEq

namespace LogDirective

/-- Whether the directive is about events outside all spans, whatever their values. -/
def isForEvents (d : LogDirective) : Bool := d.span.isNone && !d.field.any LogField.hasValue

/-- Whether the directive concerns an event: its target begins the one of the event, and the event
has its field. -/
def concerns (d : LogDirective) (e : LogEvent) : Bool :=
  d.isForEvents && d.target.all (fun target => target.toList.isPrefixOf e.target.toList) &&
    d.field.all (fun field => e.names.contains field.name)

/-- Whether the directive is at least as specific as another one that concerns the same event. -/
def isAsSpecificAs (d other : LogDirective) : Bool :=
  let length (d : LogDirective) : Nat := (d.target.map fun t => t.length + 1).getD 0
  let name (d : LogDirective) : String := (d.field.map LogField.name).getD ""
  if length d = length other then
    if d.field.isSome = other.field.isSome then name other ≤ name d else d.field.isSome
  else length other < length d

end LogDirective

namespace LogFilter

/-- The parts of a text between commas. -/
def parts (part : List Char) : List Char → List (List Char)
  | [] => [part.reverse]
  | c :: cs => if c == ',' then part.reverse :: parts [] cs else parts (c :: part) cs

/-- The filter of a text. -/
def ofString (s : String) : Except LogFilterError LogFilter := do
  return ⟨← ((parts [] s.toList).filter (!·.isEmpty)).mapM LogDirective.ofText⟩

/-- The directive that decides about an event. -/
def deciding? (f : LogFilter) (e : LogEvent) : Option LogDirective :=
  (f.directives.filter (·.concerns e)).foldl
    (fun best d => if best.all d.isAsSpecificAs then some d else best) none

/-- Whether the event is logged. -/
def logs (f : LogFilter) (e : LogEvent) : Bool :=
  (f.deciding? e).any fun d => e.level.verbosity ≤ d.level.verbosity

example : (ofString "warn,core=debug").toOption.map
    (·.logs ⟨.debug, "core::store", "opened", []⟩) = some true := by decide +kernel

example : (ofString "warn,core=debug").toOption.map
    (·.logs ⟨.info, "main", "started", []⟩) = some false := by decide +kernel

example : (ofString "core=loud").toOption = none := by decide +kernel

end LogFilter

end IncomeTax
