import Subschema.Definition
import Subschema.Json.Record

namespace Subschema

/-- The kind that a value names. -/
def Kind.ofJson? : Json → Option Kind :=
  Json.choice? [(Kind.objectClass.tag, .objectClass), (Kind.attributeType.tag, .attributeType)]

/-- A kind as JSON. -/
def Kind.toJson (kind : Kind) : Json := .text kind.tag

/-- The result code that a value names. -/
def ResultCode.ofJson? : Json → Option ResultCode :=
  Json.choice? (ResultCode.all.map fun rc => (rc.tag, rc))

/-- The identifier that a string spells. -/
def Oid.ofJson? (value : Json) : Option Oid :=
  value.text?.bind fun s => (Oid.parse s).toOption

/-- The definition that a record spells. Identifier and kind must be there. -/
def Definition.ofJson? (value : Json) : Option Definition := do
  let fields ← value.record? 6
  let oid ← fields.required? 0 ["oid"] Oid.ofJson?
  let kind ← fields.required? 1 ["kind"] Kind.ofJson?
  let names ← fields.defaulted? 2 ["names"] [] (Json.list? Json.text?)
  let superiors ← fields.defaulted? 3 ["superiors"] [] (Json.list? Json.text?)
  let description ← fields.defaulted? 4 ["description"] none (Json.nullable? Json.text?)
  let obsolete ← fields.defaulted? 5 ["obsolete"] false Json.bool?
  some { oid, kind, names, superiors, description, obsolete }

/-- A member for a description, if there is one. -/
def descriptionMember : Option String → List (String × Json)
  | none => []
  | some description => [("description", .text description)]

/-- A definition as JSON. -/
def Definition.toJson (d : Definition) : Json :=
  .record ([("oid", .text d.oid.text), ("kind", d.kind.toJson), ("names", .texts d.names),
    ("superiors", .texts d.superiors)] ++ descriptionMember d.description ++
    [("obsolete", .bool d.obsolete)])

end Subschema
