import Subschema.Path
import Subschema.Settings.Notation.Ini
import Subschema.Settings.Notation.Json
import Subschema.Settings.Notation.Json5
import Subschema.Settings.Notation.Ron
import Subschema.Settings.Notation.Toml
import Subschema.Settings.Notation.Yaml

namespace Subschema

/-- A notation for settings. -/
inductive Notation where
  | toml
  | json
  | yaml
  | ini
  | ron
  | json5
  deriving DecidableEq

namespace Notation

/-- The extensions of settings files. -/
def extensions : List (String × Notation) :=
  [("toml", .toml), ("json", .json), ("yaml", .yaml), ("yml", .yaml), ("ini", .ini), ("ron", .ron),
    ("json5", .json5)]

/-- The notation of a file, by its extension. -/
def ofPath? (path : String) : Option Notation :=
  (Path.extension? path).bind fun extension => extensions.lookup extension

/-- The settings in a text, which must be a table as a whole. -/
def read? (style : Notation) (text : String) : Option (List (String × Setting)) :=
  let setting? :=
    match style with
    | .toml => Setting.ofToml? text
    | .json => Setting.ofJson? text
    | .yaml => Setting.ofYaml? text
    | .ini => Setting.ofIni? text
    | .ron => Setting.ofRon? text
    | .json5 => Setting.ofJson5? text
  match setting? with
  | some (.table entries) => some entries
  | _ => none

end Notation

end Subschema
