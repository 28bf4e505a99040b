import Subschema.Settings
import Subschema.Toml.Writer

namespace Subschema.Settings

/-- The characters of a settings file that says everything there is to say. -/
def write (settings : Settings) : List Char :=
  Toml.writeHeader "registry" <|
  Toml.writeAssignment "forward_references" (Toml.writeText settings.policy.tag) <| '\n' ::
  (Toml.writeHeader "loader" <|
  Toml.writeAssignment "paths" (Toml.writeTexts settings.load.paths) <|
  Toml.writeAssignment "include_core" (Toml.writeBool settings.load.includeCore) <|
  Toml.writeAssignment "skip_prefixes" (Toml.writeTexts settings.load.skipPrefixes) <| '\n' ::
  (Toml.writeHeader "logging" <|
  Toml.writeAssignment "filter" (Toml.writeText settings.filter) []))

/-- The text of a settings file. -/
def render (settings : Settings) : String := String.ofList settings.write

end Subschema.Settings
