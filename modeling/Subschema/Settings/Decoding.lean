import Subschema.Settings
import Subschema.Settings.Tree

namespace Subschema.Setting

/-- The truth value of a setting: it may be a number or a word, too. -/
def truth? : Setting → Option Bool
  | .boolean b => some b
  | .integer n => some (n != 0)
  | .real x => some !x.isZero
  | .text s =>
    let word := Text.lower s
    if ["1", "true", "on", "yes"].contains word then some true
    else if ["0", "false", "off", "no"].contains word then some false
    else none
  | .nothing | .list _ | .table _ => none

/-- The text of a setting, which may be a number. -/
def text? : Setting → Option String
  | .text s => some s
  | .boolean b => some (if b then "true" else "false")
  | .integer n => some (toString n)
  | .real x => some x.render
  | .nothing | .list _ | .table _ => none

/-- The texts of a list. -/
def texts? : Setting → Option (List String)
  | .list items => items.mapM text?
  | _ => none

/-- The policy of a name. -/
def policyOfName? (name : String) : Option Policy :=
  [Policy.defer, Policy.reject].find? fun policy => policy.tag = Text.lower name

/-- The policy of a setting: its name, or a table of which it is the only key. -/
def policy? : Setting → Option Policy
  | .text name => policyOfName? name
  | .table [(name, _)] => policyOfName? name
  | _ => none

/-- A field of a group of settings: by its key in a table, by its place in a list. -/
def field? (key : String) (place : Nat) : Setting → Option (Option Setting)
  | .table entries => some (entries.lookup key)
  | .list items => some items[place]?
  | _ => none

/-- A field as a value, which keeps its default if the field is not there. -/
def decodeField {α : Type} (group : Setting) (key : String) (place : Nat) (default : α)
    (decode : Setting → Option α) : Option α := do
  match ← group.field? key place with
  | some value => decode value
  | none => return default

/-- What the entries of all sources set. Keys that are not known are passed over. -/
def decodeSettings (root : Setting) : Option Settings := do
  let defaults : Settings := {}
  let policy ← decodeField root "registry" 0 defaults.policy fun group =>
    decodeField group "forward_references" 0 defaults.policy policy?
  let load ← decodeField root "loader" 1 defaults.load fun group => do
    return { paths := ← decodeField group "paths" 0 defaults.load.paths texts?
             includeCore := ← decodeField group "include_core" 1 defaults.load.includeCore truth?
             skipPrefixes :=
              ← decodeField group "skip_prefixes" 2 defaults.load.skipPrefixes texts? }
  let filter ← decodeField root "logging" 2 defaults.filter fun group =>
    decodeField group "filter" 0 defaults.filter text?
  return { policy, load, filter }

end Subschema.Setting
