import Subschema.Encoding.Definition

namespace Subschema

/-- A definition as written in a document. Nothing in it has been checked. -/
structure Entry where
  oid : String
  names : List String := []
  superiors : List String := []
  description : Option String := none
  obsolete : Bool := false
  deriving DecidableEq

/-- A schema document: a JSON record with a name and the definitions of both kinds. -/
structure Document where
  name : Option String := none
  objectClasses : List Entry := []
  attributeTypes : List Entry := []
  deriving DecidableEq

/-- The entries of one kind. -/
def Document.entries (document : Document) : Kind → List Entry
  | .objectClass => document.objectClasses
  | .attributeType => document.attributeTypes

/-- The definition that an entry stands for, blanks around its references dropped. -/
def Entry.toDefinition (entry : Entry) (kind : Kind) : Except Error Definition :=
  (Oid.parse entry.oid).map fun oid =>
    { oid, kind, names := entry.names.map Text.trim, superiors := entry.superiors.map Text.trim,
      description := entry.description, obsolete := entry.obsolete }

/-- The entry that a definition is written as. -/
def Definition.toEntry (d : Definition) : Entry :=
  ⟨d.oid.text, d.names, d.superiors, d.description, d.obsolete⟩

/-- The entry that a record spells. Superiors and description have a short spelling too. -/
def Entry.ofJson? (value : Json) : Option Entry := do
  let fields ← value.record? 5
  let oid ← fields.required? 0 ["oid"] Json.text?
  let names ← fields.defaulted? 1 ["names"] [] (Json.list? Json.text?)
  let superiors ← fields.defaulted? 2 ["superiors", "sup"] [] (Json.list? Json.text?)
  let description ← fields.defaulted? 3 ["description", "desc"] none (Json.nullable? Json.text?)
  let obsolete ← fields.defaulted? 4 ["obsolete"] false Json.bool?
  some { oid, names, superiors, description, obsolete }

/-- An entry as JSON. -/
def Entry.toJson (entry : Entry) : Json :=
  .record ([("oid", .text entry.oid), ("names", .texts entry.names),
    ("superiors", .texts entry.superiors)] ++ descriptionMember entry.description ++
    [("obsolete", .bool entry.obsolete)])

/-- The document that a record spells. -/
def Document.ofJson? (value : Json) : Option Document := do
  let fields ← value.record? 3
  let name ← fields.defaulted? 0 ["name"] none (Json.nullable? Json.text?)
  let objectClasses ← fields.defaulted? 1 ["objectClasses"] [] (Json.list? Entry.ofJson?)
  let attributeTypes ← fields.defaulted? 2 ["attributeTypes"] [] (Json.list? Entry.ofJson?)
  some { name, objectClasses, attributeTypes }

/-- A document as JSON. -/
def Document.toJson (document : Document) : Json :=
  .record [("name", document.name.elim .null .text),
    ("objectClasses", .array (document.objectClasses.map Entry.toJson)),
    ("attributeTypes", .array (document.attributeTypes.map Entry.toJson))]

end Subschema
