import Subschema.Json.Value

namespace Subschema.Json

/-- A record that has been taken apart into its fields: an object with the fields by name, or an
array with the fields in order. -/
inductive Record where
  | named (members : List (String × Json))
  | listed (items : List Json)

/-- The record that a value spells, if it is one of at most the given number of fields. An object
may have further members, but each key must be a usable string. -/
def record? (size : Nat) : Json → Option Record
  | .object members =>
    (members.mapM fun (member : Option String × Json) =>
      member.1.map fun key => (key, member.2)).map .named
  | .array items => if items.length ≤ size then some (.listed items) else none
  | _ => none

/-- The value of a field, if it is there at all. By name a field may have several spellings, and
must not be given twice. -/
def Record.field? (record : Record) (position : Nat) (names : List String) :
    Option (Option Json) :=
  match record with
  | .listed items => some items[position]?
  | .named members =>
    match members.filter fun member => names.contains member.1 with
    | [] => some none
    | [(_, value)] => some (some value)
    | _ => none

/-- A field that must be there. -/
def Record.required? {α : Type} (record : Record) (position : Nat) (names : List String)
    (value? : Json → Option α) : Option α :=
  match record.field? position names with
  | some (some value) => value? value
  | _ => none

/-- A field that may be left out, with the value it then has. -/
def Record.defaulted? {α : Type} (record : Record) (position : Nat) (names : List String)
    (default : α) (value? : Json → Option α) : Option α :=
  match record.field? position names with
  | some (some value) => value? value
  | some none => some default
  | none => none

end Subschema.Json
