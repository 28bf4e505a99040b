import Subschema.CommandLine.Arguments
import Subschema.CommandLine.Outcome
import Subschema.Settings.Sources

namespace Subschema.CommandLine

/-- The options that say what to load, as both tools have them. -/
def sourceSpecs : List OptionSpec :=
  [{ name := "config", letter := some 'c' },
   { name := "schema", letter := some 's', repeatable := true },
   { name := "no-core", takesValue := false }]

/-- The arguments that say what to load. -/
structure Sources where
  settingsFile : Option String
  paths : List String
  withoutCore : Bool

/-- Whether the values of the options that say what to load are proper ones. -/
def sourceValuesFit (given : List Occurrence) : Bool :=
  (valuesOf given "config" ++ valuesOf given "schema").all (· != "")

/-- The settings for a run. -/
def loadSettings (surroundings : Surroundings) (sources : Sources) :
    Except (List String) Settings :=
  match surroundings.settings sources.settingsFile with
  | .ok settings => .ok settings
  | .error (.config problem) => .error ["failed to load configuration", problem]
  | .error e => .error ["failed to load configuration", e.message]

/-- What a run has to load: what the settings say, seen from the working directory, and then what the
arguments say. -/
def loadOptions (surroundings : Surroundings) (sources : Sources) (settings : Settings) :
    LoadOptions :=
  { settings.load with
    paths := settings.pathsFrom surroundings.workingPath ++ sources.paths
    includeCore := settings.load.includeCore && !sources.withoutCore }

/-- The schema for a run. -/
def loadSchema (surroundings : Surroundings) (sources : Sources) :
    Except (List String) (Report × Schema) := do
  let settings ← loadSettings surroundings sources
  let options := loadOptions surroundings sources settings
  match (Schema.empty settings.policy).loadConfigured surroundings.tree options with
  | .ok loaded => return loaded
  | .error e => throw ("Failed to load schemas" :: reasonsOf e)

end Subschema.CommandLine
