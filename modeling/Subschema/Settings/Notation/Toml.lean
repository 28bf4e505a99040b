import Subschema.Settings.Tree
import Subschema.Toml.Reader

namespace Subschema

mutual

/-- The setting that a value of a TOML document stands for. Dates and times stand for their texts.
-/
def Toml.toSetting : Toml → Setting
  | .text s => .text s
  | .integer n => .integer n
  | .real x => .real x
  | .boolean b => .boolean b
  | .moment m => .text m.render
  | .array items => .list (Toml.toSettings items)
  | .series tables => .list (Toml.toSettings tables)
  | .table _ entries => .table (Toml.toEntries entries)

/-- The settings that values stand for. -/
def Toml.toSettings : List Toml → List Setting
  | [] => []
  | item :: items => item.toSetting :: Toml.toSettings items

/-- The entries that a table stands for. -/
def Toml.toEntries : List (String × Toml) → List (String × Setting)
  | [] => []
  | (key, value) :: entries => (key, value.toSetting) :: Toml.toEntries entries

end

/-- The settings that a TOML document spells. -/
def Setting.ofToml? (text : String) : Option Setting :=
  (Toml.parse? text).map Toml.toSetting

end Subschema
