import Subschema.Decimal.Binary64
import Subschema.Text.Hex

namespace Subschema

/-- A value without parts. -/
inductive Yaml.Scalar where
  | null
  | boolean (b : Bool)
  | integer (n : Int)
  /-- A number that is not whole or not small, as it is written. -/
  | real (spelling : String)
  | text (s : String)
  deriving DecidableEq

/-- A value of a YAML document. -/
inductive Yaml where
  | scalar (s : Yaml.Scalar)
  | list (items : List Yaml)
  | map (entries : List (Yaml.Scalar × Yaml))

namespace Yaml.Scalar

/-- A whole number of 64 bits in a base up to sixteen, with or without a sign. -/
def inBase? (base : Nat) (cs : List Char) : Option Int :=
  let (negative, digits) := splitSign cs
  if digits.isEmpty then none
  else ((Text.digitsValue? base digits).map (withSign negative)).filter fitsSigned64

/-- A whole number of 64 bits, in the base that its first characters say. -/
def whole? : List Char → Option Int
  | '0' :: 'x' :: cs => inBase? 16 cs
  | '0' :: 'o' :: cs => inBase? 8 cs
  | '+' :: cs => integer64? cs
  | cs => integer64? cs

/-- The words for what is no finite number. -/
def endlessWords : List String :=
  [".inf", ".Inf", ".INF", "+.inf", "+.Inf", "+.INF", "-.inf", "-.Inf", "-.INF",
    ".nan", ".NaN", ".NAN"]

/-- Whether a text is a number. Words other than those for what is no finite number are none. -/
def isReal (s : String) : Bool :=
  endlessWords.contains s || (s.toList.any Char.isDigit && (Binary64.read? s.toList).isSome)

/-- What a text without quotes stands for. -/
def ofPlain (s : String) : Scalar :=
  if s = "" ∨ s = "~" ∨ s = "null" then .null
  else if s = "true" then .boolean true
  else if s = "false" then .boolean false
  else
    match whole? s.toList with
    | some n => .integer n
    | none => if isReal s then .real s else .text s

/-- What a text without quotes stands for if a standard tag says its kind. A text that is not of
that kind stands for the empty value. -/
def ofTagged (kind s : String) : Scalar :=
  if kind = "bool" then
    if s = "true" then .boolean true else if s = "false" then .boolean false else .null
  else if kind = "int" then ((integer64? s.toList).map .integer).getD .null
  else if kind = "float" then if isReal s then .real s else .null
  else if kind = "null" then .null
  else .text s

end Yaml.Scalar

end Subschema
