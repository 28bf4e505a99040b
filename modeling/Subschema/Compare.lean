import Subschema.Operation
import Subschema.Registry
import Subschema.Text.Lossy

namespace Subschema

/-- The value that a compare request asserts. -/
inductive AssertionValue where
  | text (text : String)
  | binary (bytes : List UInt8)
  deriving DecidableEq

/-- Whether a value is given as bytes. -/
def AssertionValue.isBinary : AssertionValue → Bool
  | .text _ => false
  | .binary _ => true

/-- A compare request: the assertion that an attribute of an entry has a value. -/
structure CompareRequest where
  messageId : Int32 := -1
  name : String
  attributeId : String
  value : AssertionValue
  deriving DecidableEq

namespace CompareRequest

/-- Whether two requests ask the same question, whatever their message numbers. -/
def asksSame (a b : CompareRequest) : Bool :=
  a.name == b.name && a.attributeId == b.attributeId && a.value == b.value

/-- The operation of the request. -/
def operation (_ : CompareRequest) : Operation := .compareRequest

/-- The operation of the response. -/
def response (_ : CompareRequest) : Operation := .compareResponse

/-- The attribute without its options, which follow a semicolon. -/
def attributeType (request : CompareRequest) : String :=
  Text.trim ((Text.split ';' request.attributeId).headD "")

/-- What the attribute stands for among the attribute types. -/
def validate (request : CompareRequest) (attributeTypes : Registry) : Except Error Oid :=
  attributeTypes.resolve request.attributeType

/-- Two hexadecimal digits of a byte, in capitals. -/
def hexByte (b : UInt8) : String :=
  let digit := fun n => (Nat.digitChar n).toUpper
  "0x" ++ String.ofList [digit (b.toNat / 16), digit (b.toNat % 16)] ++ " "

/-- The text of a value. Bytes are shown as text, then in hexadecimal. -/
def showValue : AssertionValue → String
  | .text text => text
  | .binary bytes => Text.ofBytesLossy bytes ++ "/" ++ String.join (bytes.map hexByte)

/-- The request over several lines. -/
def render (request : CompareRequest) : String :=
  "    Compare request\n" ++
  "        Entry : '" ++ request.name ++ "'\n" ++
  "        Attribute description : '" ++ request.attributeId ++ "'\n" ++
  "        Attribute value : '" ++ showValue request.value ++ "'\n"

end CompareRequest

end Subschema
