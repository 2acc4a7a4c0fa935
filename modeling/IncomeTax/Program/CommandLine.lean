import IncomeTax.Json.Reading
import IncomeTax.Json.Writing
import IncomeTax.Log.Filter
import IncomeTax.Program.Outcome
import IncomeTax.Program.Settings
import IncomeTax.RateTable.Directory

/-!
# The command line

The program lists the rate tables, or validates, calculates or files a declaration read from a file,
and prints the outcome as a document. Options stand before or after the name of the command, with
their value in the next argument or after an equals sign. An option may be given once on either
side; the one after the command counts.

A run reads the configuration file, opens the log file and reads the log filter, loads the rate
tables and then performs its command. The first step that fails ends the run. Until the tables are
loaded, what happens is logged on the stream for errors and in the log file, so a file that is read
later may have grown.

## Main definitions

* `CommandLine.parse` — the arguments of a run
* `CommandLine.run` — a run, over any access to files
* `RunResult` — exit code, printed text and error
-/

namespace IncomeTax

/-- What a run does. -/
inductive Command where
  | tables
  | validate (file : String)
  | calculate (file : String)
  | file (file : String)
  deriving DecidableEq

/-- The options of a run. -/
structure Options where
  config : Option String
  rateTables : Option String
  backend : Option String
  quarantine : Bool
  logLevel : Option String
  logFile : Option String
  deriving DecidableEq

namespace Options

/-- No options. -/
def empty : Options := ⟨none, none, none, false, none, none⟩

/-- The options on both sides of a command, of which those after it count first. -/
def merge (before after : Options) : Options where
  config := after.config.or before.config
  rateTables := after.rateTables.or before.rateTables
  backend := after.backend.or before.backend
  quarantine := after.quarantine || before.quarantine
  logLevel := after.logLevel.or before.logLevel
  logFile := after.logFile.or before.logFile

/-- The options that replace settings. -/
def overrides (o : Options) : Overrides :=
  ⟨o.rateTables, o.backend, o.quarantine, o.logLevel, o.logFile⟩

/-- Sets an option with a value, once. The name of a file may not be empty. -/
def set? (o : Options) (name value : String) : Option Options :=
  match name with
  | "config" =>
    if o.config.isSome || value.isEmpty then none else some { o with config := some value }
  | "rate-tables" =>
    if o.rateTables.isSome then none else some { o with rateTables := some value }
  | "backend" => if o.backend.isSome then none else some { o with backend := some value }
  | "log-level" => if o.logLevel.isSome then none else some { o with logLevel := some value }
  | "log-file" =>
    if o.logFile.isSome || value.isEmpty then none else some { o with logFile := some value }
  | _ => none

end Options

/-- What the arguments of a run ask for. -/
inductive Invocation where
  | run (options : Options) (command : Command)
  | version
  | help
  | wrongUsage
  deriving DecidableEq

/-- What a run leaves behind: the exit code, the printed text, and the error that ended it. -/
structure RunResult where
  code : Nat
  output : String
  error : Option String
  deriving DecidableEq

namespace CommandLine

/-- An argument: an option with its name and perhaps a value, short options, the end of all options,
or a plain word. -/
inductive Argument where
  | long (name : String) (value : Option String)
  | short (letters : List Char)
  | endOfOptions
  | word (s : String)
  deriving DecidableEq

/-- The kind of an argument. -/
def Argument.ofString (s : String) : Argument :=
  match s.toList with
  | ['-', '-'] => .endOfOptions
  | '-' :: '-' :: rest =>
    let name := String.ofList (rest.takeWhile (· != '='))
    match rest.dropWhile (· != '=') with
    | [] => .long name none
    | _ :: value => .long name (some (String.ofList value))
  | '-' :: c :: rest => .short (c :: rest)
  | _ => .word s

/-- Whether the argument can be the value of the option before it. -/
def Argument.isValue : Argument → Bool
  | .word _ => true
  | _ => false

/-- Reads options from the front of arguments, up to the first word or the end of all options;
answers the arguments from there on. The version can only be asked for before the command. -/
def readOptions (versionAllowed : Bool) (o : Options) :
    List String → Except Invocation (Options × List String)
  | [] => .ok (o, [])
  | arg :: rest =>
    match Argument.ofString arg with
    | .endOfOptions | .word _ => .ok (o, arg :: rest)
    | .short letters =>
      if letters.head? == some 'h' then .error .help
      else if letters.head? == some 'V' && versionAllowed then .error .version
      else .error .wrongUsage
    | .long "help" none => .error .help
    | .long "version" none => if versionAllowed then .error .version else .error .wrongUsage
    | .long "quarantine" none =>
      if o.quarantine then .error .wrongUsage
      else readOptions versionAllowed { o with quarantine := true } rest
    | .long name (some value) =>
      match o.set? name value with
      | some o => readOptions versionAllowed o rest
      | none => .error .wrongUsage
    | .long name none =>
      match rest with
      | [] => .error .wrongUsage
      | value :: rest =>
        -- An option cannot be the value of another one.
        if !(Argument.ofString value).isValue then .error .wrongUsage
        else
          match o.set? name value with
          | some o => readOptions versionAllowed o rest
          | none => .error .wrongUsage

/-- Reads the options and the word after the name of a command, of which it takes at most one. A
word too many, or an empty one, is wrong whatever comes after it. -/
def readRest (takesWord : Bool) (args : List String) :
    Except Invocation (Options × List String) := do
  let (o, rest) ← readOptions false .empty args
  match rest with
  | [] => return (o, [])
  | first :: rest =>
    if Argument.ofString first = .endOfOptions then return (o, rest)
    else if !takesWord || first.isEmpty then .error .wrongUsage
    else
      let (o, rest) ← readOptions false o rest
      match rest with
      | [] => return (o, [first])
      | next :: rest =>
        if Argument.ofString next = .endOfOptions then return (o, first :: rest)
        else .error .wrongUsage

/-- The command with a name and the words after it. -/
def command? (name : String) (words : List String) : Option Command :=
  match name, words with
  | "tables", [] => some .tables
  | "validate", [file] => if file.isEmpty then none else some (.validate file)
  | "calculate", [file] => if file.isEmpty then none else some (.calculate file)
  | "file", [file] => if file.isEmpty then none else some (.file file)
  | _, _ => none

/-- The names of the commands. -/
def commandNames : List String := ["tables", "validate", "calculate", "file"]

/-- Reads all arguments, or tells what else they ask for. -/
def read (args : List String) : Except Invocation Invocation := do
  let (before, rest) ← readOptions true .empty args
  match rest with
  | [] => .error .wrongUsage
  | name :: rest =>
    if name == "help" then
      if rest.all (fun word => commandNames.contains word || word == "help") && rest.length ≤ 1 then
        .error .help
      else .error .wrongUsage
    else if !commandNames.contains name then .error .wrongUsage
    else
      let (after, words) ← readRest (name != "tables") rest
      match command? name words with
      | some command => return .run (before.merge after) command
      | none => .error .wrongUsage

/-- What the arguments ask for. -/
def parse (args : List String) : Invocation :=
  match read args with
  | .ok invocation => invocation
  | .error invocation => invocation

/-- Why a run ends early: with an error, because an amount outgrew its range, or because a log
filter would split a character. -/
inductive Halt where
  | error (message : String)
  | overflow
  | splitCharacter
  deriving DecidableEq

/-- The result of a run that ended early. -/
def Halt.result : Halt → RunResult
  | .error message => ⟨1, "", some message⟩
  | .overflow | .splitCharacter => ⟨101, "", none⟩

/-- The result of an outcome: its document, and an exit code that says whether it is a rejection. -/
def resultOf (outcome : Outcome) : RunResult :=
  ⟨if outcome.isRejected then 1 else 0, outcome.toJson.pretty ++ "\n", none⟩

/-- The error that ends a run. -/
def Halt.ofFilingError : FilingError → Halt
  | .overflow => .overflow
  | e => .error e.message

/-- The error that ends a run when tables cannot be opened or loaded; overflow has none. -/
def Halt.ofSourceError (message : String) : SourceError → Halt
  | .overflow => .overflow
  | _ => .error message

/-- The file that is read when no configuration file is given. -/
def defaultConfig : String := "aangifte.toml"

/-- The name and version of the program. -/
def versionLine : String := "aangifte 0.1.0\n"

/-- How the program is used. -/
def usage : String := "Usage: aangifte [OPTIONS] <COMMAND>\n"

variable {m : Type → Type} [Monad m]

/-- The configuration file that is given, or the default one if it is there. -/
def loadConfig (files : FileAccess m) (given : Option String) : ExceptT Halt m ConfigFile := do
  let path := given.getD defaultConfig
  if given.isNone && !(← files.isPresent path) then return .empty
  match ← files.readText path with
  | .error _ => throw (.error ("Failed to read config: " ++ path))
  | .ok text =>
    match ConfigFile.parse? text with
    | some file => return file
    | none => throw (.error ("Failed to parse config: " ++ path))

/-- Opens the log file, if there is one. -/
def openLogFile (files : FileAccess m) (settings : Settings) : ExceptT Halt m Unit := do
  if let some path := settings.logFile then
    if !(← files.openForAppending path) then
      throw (.error ("cannot open log file '" ++ path ++ "'"))

/-- The log filter: the one from the environment if it is a filter, else the one from the
settings. -/
def logFilter (environment : Option String) (settings : Settings) : Except Halt LogFilter :=
  let fromSettings := match LogFilter.ofString settings.logLevel with
    | .ok filter => .ok filter
    | .error .splitCharacter => .error .splitCharacter
    | .error .malformed => .error (.error ("invalid log level '" ++ settings.logLevel ++ "'"))
  match environment.map LogFilter.ofString with
  | some (.ok filter) => .ok filter
  | some (.error .splitCharacter) => .error .splitCharacter
  | some (.error .malformed) | none => fromSettings

/-- Logs an event, if the filter says so, on the stream for errors and in the log file. -/
def logTo (surroundings : Surroundings m) (filter : LogFilter) (logFile : Option String)
    (e : LogEvent) : m Unit := do
  if filter.logs e then
    let line := e.line (← surroundings.time)
    surroundings.printError line
    if let some path := logFile then surroundings.append path line

/-- The settings have been put together. -/
def settingsEvent (settings : Settings) : LogEvent :=
  ⟨.debug, "aangifte", "resolved settings", [("settings", settings.toText)]⟩

/-- The rate tables are about to be opened. -/
def openingEvent (source : SourceConfig) : LogEvent :=
  ⟨.debug, "aangifte_cli::commands", "opening rate table source",
    [("backend", source.backend), ("location", source.location)]⟩

/-- Loads the rate tables. -/
def loadTables (files : FileAccess m) (log : LogEvent → m Unit) (settings : Settings) :
    ExceptT Halt m RateTableSet := do
  log (openingEvent settings.source)
  let opened ← (RateTableDirectory.ofConfig files settings.source).run
  match opened with
  | .error e =>
    throw (Halt.ofSourceError ("Failed to open rate tables at " ++ settings.source.location) e)
  | .ok directory =>
    match ← (directory.load files log settings.policy).run with
    | .ok tables => return tables
    | .error e =>
      throw (Halt.ofSourceError ("Failed to load rate tables from " ++ directory.describe) e)

/-- Reads a declaration from a file. -/
def readDeclaration (files : FileAccess m) (path : String) : ExceptT Halt m NewDeclaration := do
  match ← files.readText path with
  | .error _ => throw (.error ("Failed to open: " ++ path))
  | .ok text =>
    match (Json.parse? text).bind NewDeclaration.ofJson? with
    | some new => return new
    | none => throw (.error ("Failed to parse declaration: " ++ path))

/-- Performs a command on the declaration in a file. -/
def onDeclaration (files : FileAccess m) (path : String)
    (command : NewDeclaration → Except FilingError Outcome) : ExceptT Halt m RunResult := do
  let new ← readDeclaration files path
  match command new with
  | .ok outcome => return resultOf outcome
  | .error e => throw (Halt.ofFilingError e)

/-- Performs a command. -/
def perform (surroundings : Surroundings m) (environment : Option String) (options : Options)
    (command : Command) : ExceptT Halt m RunResult := do
  let files := surroundings.toFileAccess
  let config ← loadConfig files options.config
  let settings := Settings.merge config options.overrides
  openLogFile files settings
  let log := logTo surroundings (← logFilter environment settings) settings.logFile
  log (settingsEvent settings)
  let tables ← loadTables files log settings
  match command with
  | .tables => return ⟨0, String.join (tables.listing.map (· ++ "\n")), none⟩
  | .validate path => onDeclaration files path tables.validate
  | .calculate path => onDeclaration files path tables.calculate
  | .file path => onDeclaration files path tables.file

/-- A run with the given arguments and log filter of the environment. -/
def run (surroundings : Surroundings m) (environment : Option String) (args : List String) :
    m RunResult := do
  match parse args with
  | .version => return ⟨0, versionLine, none⟩
  | .help => return ⟨0, usage, none⟩
  | .wrongUsage => return ⟨2, "", none⟩
  | .run options command =>
    match ← (perform surroundings environment options command).run with
    | .ok result => return result
    | .error halt => return halt.result

end CommandLine

end IncomeTax
