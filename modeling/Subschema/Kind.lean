namespace Subschema

/-- Category of a definition. Each has a name space of its own. -/
inductive Kind where
  | objectClass
  | attributeType
  deriving DecidableEq, Repr

/-- The words used in messages. -/
def Kind.display : Kind → String
  | .objectClass => "object class"
  | .attributeType => "attribute type"

/-- The name used in JSON. -/
def Kind.tag : Kind → String
  | .objectClass => "object_class"
  | .attributeType => "attribute_type"

/-- The name of the section of a schema document that holds definitions of this kind. -/
def Kind.sectionName : Kind → String
  | .objectClass => "objectClasses"
  | .attributeType => "attributeTypes"

end Subschema
