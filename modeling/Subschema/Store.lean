import Subschema.Definition
import Subschema.NameMap

namespace Subschema

/-- Stored definitions, under the text of their identifiers, and what their names stand for. -/
structure Store where
  names : NameMap := {}
  definitions : Std.ExtTreeMap String Definition := ∅
  deriving DecidableEq

namespace Store

/-- The definition stored under an identifier. -/
def get? (store : Store) (oid : String) : Option Definition :=
  store.definitions[oid]?

/-- Whether anything is stored under an identifier. -/
def contains (store : Store) (oid : String) : Bool :=
  (store.get? oid).isSome

/-- The stored definitions in the order of their identifiers. -/
def toList (store : Store) : List Definition :=
  store.definitions.toList.map (·.2)

/-- The number of stored definitions. -/
def size (store : Store) : Nat := store.definitions.size

/-- Whether nothing is stored. -/
def isEmpty (store : Store) : Bool := store.definitions.isEmpty

/-- Refuses a definition whose identifier is taken, or one of whose spellings stands for another
definition. -/
def checkRegistrable (store : Store) (d : Definition) : Except Error Unit :=
  if store.contains d.oid.text then .error (.duplicateOid d.oid.text)
  else d.spellings.forM fun name => store.names.checkBindable name d.oid

/-- Stores a definition and binds its spellings one after the other. -/
def register (store : Store) (d : Definition) : Except Error Store :=
  match store.checkRegistrable d with
  | .error e => .error e
  | .ok () =>
    match d.spellings.foldlM (fun names name => names.bind name d.oid) store.names with
    | .error e => .error e
    | .ok names => .ok ⟨names, store.definitions.insert d.oid.text d⟩

/-- The definition that a name or identifier stands for. -/
def lookup (store : Store) (name : String) : Except Error Definition :=
  match store.names.resolve name with
  | .error e => .error e
  | .ok oid =>
    match store.get? oid.text with
    | some d => .ok d
    | none => .error (.nameNotFound name)

/-- Removes the definition that a name stands for and frees all its spellings. -/
def unregister (store : Store) (name : String) : Except Error (Definition × Store) :=
  match store.names.get? name with
  | none => .error (.notFound name)
  | some oid =>
    match store.get? oid.text with
    | none => .error (.notFound name)
    | some d =>
      .ok (d, ⟨d.spellings.foldl NameMap.unbind store.names,
        store.definitions.erase oid.text⟩)

end Store

end Subschema
