import IncomeTax.Text.Numeral

/-!
# Log events

An event says what happened in a few words, with values by name. It comes from a part of the program
with a name of its own, at a level that says how much it matters.

## Main definitions

* `LogLevel` — how much is logged
* `LogEvent` — what happened, with its line in a log
-/

namespace IncomeTax

/-- How much is logged, from nothing to everything. The level of an event is the least at which it
is logged. -/
inductive LogLevel where
  | off
  | error
  | warn
  | info
  | debug
  | trace
  deriving DecidableEq

namespace LogLevel

/-- The place of the level in the order from nothing to everything. -/
def verbosity : LogLevel → Nat
  | .off => 0
  | .error => 1
  | .warn => 2
  | .info => 3
  | .debug => 4
  | .trace => 5

/-- The levels in order. -/
def all : List LogLevel := [.off, .error, .warn, .info, .debug, .trace]

/-- The name of the level in a filter. -/
def name : LogLevel → String
  | .off => "off"
  | .error => "error"
  | .warn => "warn"
  | .info => "info"
  | .debug => "debug"
  | .trace => "trace"

/-- The name of the level in a log, five characters wide. -/
def label : LogLevel → String
  | .off => "  OFF"
  | .error => "ERROR"
  | .warn => " WARN"
  | .info => " INFO"
  | .debug => "DEBUG"
  | .trace => "TRACE"

/-- The level of a text: a number up to five, or a name in any case. The empty text asks for errors
alone. -/
def ofChars? (cs : List Char) : Option LogLevel :=
  let digits := match cs with
    | '+' :: rest => rest
    | _ => cs
  let byNumber := (Text.natural? digits).bind fun n => all.find? (·.verbosity == n)
  byNumber.or
    (if cs.isEmpty then some .error
      else all.find? fun level => level.name.toList == cs.map Char.toLower)

end LogLevel

/-- What happened in a part of the program. -/
structure LogEvent where
  level : LogLevel
  target : String
  message : String
  values : List (String × String)
  deriving DecidableEq

namespace LogEvent

/-- The names of all that the event holds. -/
def names (e : LogEvent) : List String := "message" :: e.values.map (·.1)

/-- The line of the event in a log, with the time before it. -/
def line (e : LogEvent) (time : String) : String :=
  time ++ " " ++ e.level.label ++ " " ++ e.target ++ " " ++ e.message ++
    String.join (e.values.map fun (name, value) => " " ++ name ++ "=" ++ value) ++ "\n"

end LogEvent

end IncomeTax
