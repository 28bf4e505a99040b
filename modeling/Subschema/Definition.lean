import Subschema.Name
import Subschema.Oid

namespace Subschema

/-- An object class or attribute type. Superiors may be written as identifiers or names; a
registry keeps them as identifiers. -/
structure Definition where
  oid : Oid
  kind : Kind
  /-- The first one is the primary name. -/
  names : List String := []
  superiors : List String := []
  description : Option String := none
  obsolete : Bool := false
  deriving DecidableEq

/-- The primary name, or the identifier where there is none. -/
def Definition.name (d : Definition) : String :=
  d.names.headD d.oid.text

/-- Whether a reference names this definition: by its identifier, or by one of its names in any
ASCII case. -/
def Definition.hasName (d : Definition) (reference : String) : Bool :=
  d.oid.text == Text.trim reference ||
    d.names.any fun name => Text.equalsIgnoringAsciiCase name (Text.trim reference)

/-- The identifier and all names, as they are spelled. -/
def Definition.spellings (d : Definition) : List String :=
  d.oid.text :: d.names

/-- The names part of the text: nothing, one name, or names in parentheses. -/
def renderNames : List String → String
  | [] => ""
  | [name] => " NAME '" ++ name ++ "'"
  | names => " NAME (" ++ String.join (names.map fun name => " '" ++ name ++ "'") ++ " )"

/-- The superiors part of the text: nothing, one superior, or superiors in parentheses. -/
def renderSuperiors : List String → String
  | [] => ""
  | [superior] => " SUP " ++ superior
  | superiors => " SUP ( " ++ " $ ".intercalate superiors ++ " )"

/-- The description part of the text. Nothing in it is escaped. -/
def renderDescription : Option String → String
  | none => ""
  | some description => " DESC '" ++ description ++ "'"

/-- The definition in the style of RFC 4512. -/
def Definition.render (d : Definition) : String :=
  "( " ++ d.oid.text ++ renderNames d.names ++ renderDescription d.description ++
    (if d.obsolete then " OBSOLETE" else "") ++ renderSuperiors d.superiors ++ " )"

end Subschema
