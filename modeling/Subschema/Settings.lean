import Subschema.Bundle

namespace Subschema

/-- What can be set: the policy for superiors that are not registered, what to load, and which
messages to log. -/
structure Settings where
  policy : Policy := .defer
  load : LoadOptions := {}
  filter : String := "info"
  deriving DecidableEq

/-- The paths to load, relative ones seen from a directory. -/
def Settings.pathsFrom (settings : Settings) (directory : String) : List String :=
  settings.load.paths.map (Path.join directory)

end Subschema
