import Subschema.Settings.Tree

namespace Subschema.Environment

/-- How the names of variables start that give settings, whatever the case. -/
def nameStart : List Char := "dirschema__".toList

/-- Two underscores divide the keys of a path. -/
def divideKeys : List Char → List Char
  | '_' :: '_' :: cs => '.' :: divideKeys cs
  | c :: cs => c :: divideKeys cs
  | [] => []

/-- The key of the setting that a variable gives, if its name has the right start. Two underscores
stand between the keys of a path. -/
def keyOf? (name : String) : Option String :=
  let cs := (Text.lower name).toList
  if nameStart.isPrefixOf cs then some (String.ofList (divideKeys (cs.drop nameStart.length)))
  else none

/-- The settings that hold lists. -/
def listKeys : List String := ["loader.paths", "loader.skip_prefixes"]

/-- The value of a variable: a truth value or a number if it reads as one, otherwise a text or, for
some settings, the list of what stands between commas. -/
def valueOf (key value : String) : Setting :=
  let word := Text.lower value
  if word = "true" then .boolean true
  else if word = "false" then .boolean false
  else
    match integer64? value.toList with
    | some n => .integer n
    | none =>
      match Binary64.read? value.toList with
      | some x => .real x
      | none =>
        if listKeys.contains key then .list ((Text.split ',' value).map .text) else .text value

/-- The settings that the environment gives. -/
def settings (environment : List (String × String)) : List (String × Setting) :=
  environment.filterMap fun (name, value) => (keyOf? name).map fun key => (key, valueOf key value)

end Subschema.Environment
