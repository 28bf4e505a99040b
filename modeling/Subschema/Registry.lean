import Subschema.Index

namespace Subschema

/-- What to do with a superior that is not registered. -/
inductive Policy where
  /-- Accept it if it is given as an identifier, and link it once it is registered. -/
  | defer
  /-- Refuse the definition. -/
  | reject
  deriving DecidableEq, Repr

/-- The name of a policy. -/
def Policy.tag : Policy → String
  | .defer => "defer"
  | .reject => "reject"

/-- The definitions of one kind, and the index of their descendants. A definition is checked in full
before anything changes, so one that is refused leaves no trace. -/
structure Registry where
  kind : Kind
  policy : Policy := .defer
  store : Store := {}
  index : Index := {}
  deriving DecidableEq

namespace Registry

/-- The identifier that a superior reference of a definition stands for. A definition that names
itself is not refused here. -/
def resolveSuperior (registry : Registry) (d : Definition) (reference : String) :
    Except Error String :=
  let reference := Text.trim reference
  if d.hasName reference then .ok d.oid.text
  else
    match registry.store.names.resolve reference with
    | .ok oid => .ok oid.text
    | .error e =>
      if registry.policy = .defer ∧ isNumericOid reference.toList then .ok reference else .error e

/-- The superiors of a definition as identifiers, each one once. -/
def resolveSuperiors (registry : Registry) (d : Definition) : Except Error (List String) :=
  (d.superiors.mapM (registry.resolveSuperior d)).map List.eraseDups

/-- Refuses superiors from which the superiors of registered definitions lead back to the
definition. -/
def checkAcyclic (registry : Registry) (oid : String) (superiors : List String) :
    Except Error Unit :=
  match walkTo? registry.store.definitions Definition.superiors oid superiors with
  | some path => .error (.cyclicHierarchy oid path)
  | none => .ok ()

/-- The definition as it would be stored, or why it is refused. -/
def prepare (registry : Registry) (d : Definition) : Except Error Definition := do
  if d.kind ≠ registry.kind then
    throw (.wrongKind d.oid.text registry.kind d.kind)
  d.names.forM checkName
  registry.store.checkRegistrable d
  let superiors ← registry.resolveSuperiors d
  registry.checkAcyclic d.oid.text superiors
  return { d with superiors }

/-- Registers a definition. The stored one has identifiers as superiors. -/
def register (registry : Registry) (d : Definition) : Except Error (Definition × Registry) := do
  let d ← registry.prepare d
  let store ← registry.store.register d
  return (d, { registry with store, index := registry.index.enter store d })

/-- Removes the definition that a name stands for. -/
def unregister (registry : Registry) (name : String) : Except Error (Definition × Registry) := do
  let (d, store) ← registry.store.unregister name
  return (d, { registry with store, index := registry.index.withdraw store d })

/-- A copy with an index made anew from its definitions. -/
def copy (registry : Registry) : Registry :=
  { registry with index := .rebuild registry.store }

/-- What a name stands for. -/
def resolve (registry : Registry) (name : String) : Except Error Oid :=
  registry.store.names.resolve name

/-- The definition that a name stands for. -/
def lookup (registry : Registry) (name : String) : Except Error Definition :=
  registry.store.lookup name

/-- Whether a name stands for anything. -/
def contains (registry : Registry) (name : String) : Bool :=
  registry.store.names.contains name

/-- The number of registered definitions. -/
def size (registry : Registry) : Nat := registry.store.size

/-- Whether nothing is registered. -/
def isEmpty (registry : Registry) : Bool := registry.store.isEmpty

/-- What the subject of a question about the hierarchy stands for. -/
def resolveTarget (registry : Registry) (name : String) : Except Error Oid :=
  match registry.resolve name with
  | .ok oid => .ok oid
  | .error _ => .error (.notFound name)

/-- The identifiers that the index lists below a definition. -/
def descendantOids (registry : Registry) (name : String) : Except Error TextSet :=
  (registry.resolveTarget name).map fun oid => registry.index.descendants.row oid.text

/-- Whether anything inherits from a definition. -/
def hasDescendants (registry : Registry) (name : String) : Except Error Bool :=
  (registry.descendantOids name).map fun oids => !oids.isEmpty

/-- The definitions that inherit from a definition, directly or not. -/
def descendants (registry : Registry) (name : String) : Except Error (List Definition) :=
  (registry.descendantOids name).map fun oids => oids.toList.filterMap registry.store.get?

/-- Whether one definition inherits from another, directly or not. -/
def isDescendantOf (registry : Registry) (subtype supertype : String) : Except Error Bool := do
  let sub ← registry.resolveTarget subtype
  let sup ← registry.resolveTarget supertype
  return registry.index.descendants.contains sup.text sub.text

/-- The superiors that are named and not registered, each with those that name it. -/
def pendingSuperiors (registry : Registry) : List (String × List String) :=
  registry.index.waiting.toList

/-- Whether the index is the one that the definitions call for. -/
def verifyIndex (registry : Registry) : Bool :=
  registry.index = .rebuild registry.store

end Registry

end Subschema
