namespace Subschema

/-- A JSON number that is no integer by its spelling: it has a fraction or an exponent, or is minus
zero. -/
structure JsonDecimal where
  negative : Bool
  whole : Nat
  /-- The digits after the point. -/
  fraction : List Char
  exponent : Int
  deriving DecidableEq

/-- A JSON value. The members of an object stand in the order of the text, repetitions included. A
string that holds half of a surrogate pair, which no consumer here can use, is `none`. -/
inductive Json where
  | null
  | bool (value : Bool)
  | integer (n : Int)
  | decimal (d : JsonDecimal)
  /-- The text, or `none` where an escape spells a surrogate that has no partner. -/
  | string (text : Option String)
  | array (items : List Json)
  | object (members : List (Option String × Json))

namespace Json

/-- A string value. -/
def text (s : String) : Json := .string (some s)

/-- A list of strings. -/
def texts (ss : List String) : Json := .array (ss.map text)

/-- An object with the given members. -/
def record (members : List (String × Json)) : Json :=
  .object (members.map fun member => (some member.1, member.2))

/-- The string, where the value is one and can be used. -/
def text? : Json → Option String
  | .string s => s
  | _ => none

/-- The integer, where the value is one. -/
def integer? : Json → Option Int
  | .integer n => some n
  | _ => none

/-- The truth value, where the value is one. -/
def bool? : Json → Option Bool
  | .bool b => some b
  | _ => none

/-- The items of an array, all of which must decode. -/
def list? {α : Type} (item? : Json → Option α) : Json → Option (List α)
  | .array items => items.mapM item?
  | _ => none

/-- A value that may be `null`. -/
def nullable? {α : Type} (value? : Json → Option α) : Json → Option (Option α)
  | .null => some none
  | value => (value? value).map some

/-- The alternative that a value names: as a string, or as the key of an object with one member,
which is `null`. -/
def choice? {α : Type} (alternatives : List (String × α)) : Json → Option α
  | .string (some tag) => alternatives.lookup tag
  | .object [(some tag, .null)] => alternatives.lookup tag
  | _ => none

end Json

end Subschema
