import Subschema.Registry

namespace Subschema

/-- The registries of both kinds. They have separate name spaces, so the same name may stand for an
attribute type and for an object class. -/
structure Schema where
  objectClasses : Registry
  attributeTypes : Registry
  deriving DecidableEq

namespace Schema

/-- The empty schema with a policy. -/
def empty (policy : Policy) : Schema :=
  ⟨{ kind := .objectClass, policy }, { kind := .attributeType, policy }⟩

/-- The registry of a kind. -/
def registry (schema : Schema) : Kind → Registry
  | .objectClass => schema.objectClasses
  | .attributeType => schema.attributeTypes

/-- The schema with another registry of a kind. -/
def setRegistry (schema : Schema) : Kind → Registry → Schema
  | .objectClass, registry => { schema with objectClasses := registry }
  | .attributeType, registry => { schema with attributeTypes := registry }

/-- Registers a definition in the registry of a kind. -/
def registerIn (schema : Schema) (kind : Kind) (d : Definition) :
    Except Error (Definition × Schema) :=
  ((schema.registry kind).register d).map fun (d, registry) => (d, schema.setRegistry kind registry)

/-- Registers a definition in the registry of its own kind. -/
def register (schema : Schema) (d : Definition) : Except Error (Definition × Schema) :=
  schema.registerIn d.kind d

/-- Removes the definition that a name stands for in the registry of a kind. -/
def unregister (schema : Schema) (kind : Kind) (name : String) :
    Except Error (Definition × Schema) :=
  ((schema.registry kind).unregister name).map fun (d, registry) =>
    (d, schema.setRegistry kind registry)

/-- A copy whose indexes are made anew. -/
def copy (schema : Schema) : Schema :=
  ⟨schema.objectClasses.copy, schema.attributeTypes.copy⟩

/-- The number of definitions of both kinds. -/
def size (schema : Schema) : Nat := schema.objectClasses.size + schema.attributeTypes.size

/-- Whether there is no definition at all. -/
def isEmpty (schema : Schema) : Bool := schema.size == 0

end Schema

end Subschema
