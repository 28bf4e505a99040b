import Subschema.Settings.Tree
import Subschema.Yaml.Reader

namespace Subschema

/-- The key that a value without parts stands for. It may be a number or a truth value, which stand
for their texts. -/
def Yaml.Scalar.key? : Yaml.Scalar → Option String
  | .null => none
  | .boolean b => some (if b then "true" else "false")
  | .integer n => some (toString n)
  | .real spelling => some spelling
  | .text s => some s

/-- The setting that a value without parts stands for. The words for what is no finite number stand
for nothing that can be set. -/
def Yaml.Scalar.toSetting? : Yaml.Scalar → Option Setting
  | .null => some .nothing
  | .boolean b => some (.boolean b)
  | .integer n => some (.integer n)
  | .real spelling => (Binary64.read? spelling.toList).map .real
  | .text s => some (.text s)

mutual

/-- The setting that a value of a YAML document stands for. -/
def Yaml.toSetting? : Yaml → Option Setting
  | .scalar s => s.toSetting?
  | .list items => (Yaml.toSettings? items).map .list
  | .map entries => (Yaml.toEntries? entries).map .table

/-- The settings that values stand for. -/
def Yaml.toSettings? : List Yaml → Option (List Setting)
  | [] => some []
  | item :: items => do
    let setting ← item.toSetting?
    let settings ← Yaml.toSettings? items
    return setting :: settings

/-- The entries that a map stands for. -/
def Yaml.toEntries? : List (Yaml.Scalar × Yaml) → Option (List (String × Setting))
  | [] => some []
  | (key, value) :: entries => do
    let key ← key.key?
    let setting ← value.toSetting?
    let entries ← Yaml.toEntries? entries
    return Setting.consEntry key setting entries

end

/-- The settings that a YAML document spells. A text without a document spells none. -/
def Setting.ofYaml? (text : String) : Option Setting :=
  (Yaml.parse? text).bind fun document? =>
    match document? with
    | some document => document.toSetting?
    | none => some (.table [])

end Subschema
