import IncomeTax.Log.Event
import IncomeTax.Program.ConfigFile
import IncomeTax.RateTable.Backend

/-!
# Settings

Each setting comes from the command line, else from the configuration file, else from a default. The
quarantine policy applies when either asks for it.
-/

namespace IncomeTax

/-- Settings given on the command line. -/
structure Overrides where
  rateTables : Option String
  sourceBackend : Option String
  quarantine : Bool
  logLevel : Option String
  logFile : Option String
  deriving DecidableEq

/-- What a run of the program goes by. -/
structure Settings where
  source : SourceConfig
  policy : FaultPolicy
  logLevel : String
  logFile : Option String
  deriving DecidableEq

/-- The settings of a configuration file and the command line. -/
def Settings.merge (file : ConfigFile) (overrides : Overrides) : Settings where
  source :=
    { backend := (overrides.sourceBackend.or file.sourceBackend).getD SourceConfig.default.backend
      location := (overrides.rateTables.or file.rateTables).getD SourceConfig.default.location }
  policy := if overrides.quarantine || file.quarantine.getD false then .quarantine else .strict
  logLevel := (overrides.logLevel.or file.logLevel).getD "info"
  logFile := overrides.logFile.or file.logFile

/-- The text of all settings in a log. -/
def Settings.toText (s : Settings) : String :=
  "Settings \x7b source: SourceConfig \x7b backend: " ++ Text.quoted s.source.backend ++
    ", location: " ++ Text.quoted s.source.location ++ " \x7d, policy: " ++
    (match s.policy with
      | .strict => "Strict"
      | .quarantine => "Quarantine") ++
    ", log_level: " ++ Text.quoted s.logLevel ++ ", log_file: " ++
    (match s.logFile with
      | none => "None"
      | some path => "Some(" ++ Text.quoted path ++ ")") ++ " \x7d"

end IncomeTax
