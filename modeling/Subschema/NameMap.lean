import Std.Data.ExtTreeMap
import Subschema.Name
import Subschema.Oid

namespace Subschema

/-- What each key stands for. Entries are kept under the key of a name, so spelling does not matter.
-/
structure NameMap where
  bindings : Std.ExtTreeMap String Oid := ∅
  deriving DecidableEq

namespace NameMap

/-- What a name or identifier stands for, if anything. -/
def get? (names : NameMap) (name : String) : Option Oid :=
  names.bindings[nameKey name]?

/-- What a name or identifier stands for. -/
def resolve (names : NameMap) (name : String) : Except Error Oid :=
  match names.get? name with
  | some oid => .ok oid
  | none => .error (.nameNotFound name)

/-- Whether a name stands for anything. -/
def contains (names : NameMap) (name : String) : Bool :=
  (names.get? name).isSome

/-- Refuses a name that stands for another identifier already. -/
def checkBindable (names : NameMap) (name : String) (oid : Oid) : Except Error Unit :=
  match names.get? name with
  | some existing => if existing = oid then .ok () else .error (.duplicateName name existing.text)
  | none => .ok ()

/-- Lets a name stand for an identifier. Doing so again changes nothing. -/
def bind (names : NameMap) (name : String) (oid : Oid) : Except Error NameMap :=
  match names.checkBindable name oid with
  | .ok () => .ok ⟨names.bindings.insert (nameKey name) oid⟩
  | .error e => .error e

/-- Frees a name, whatever it stood for. -/
def unbind (names : NameMap) (name : String) : NameMap :=
  ⟨names.bindings.erase (nameKey name)⟩

/-- The number of keys that stand for something. -/
def size (names : NameMap) : Nat := names.bindings.size

/-- Whether no key stands for anything. -/
def isEmpty (names : NameMap) : Bool := names.bindings.isEmpty

end NameMap

end Subschema
