import Subschema.Compare
import Subschema.Json.Record

namespace Subschema

/-- The operation that a value names. -/
def Operation.ofJson? : Json → Option Operation :=
  Json.choice? (Operation.all.map fun operation => (operation.name, operation))

/-- The policy that a value names. -/
def Policy.ofJson? : Json → Option Policy :=
  Json.choice? [(Policy.defer.tag, .defer), (Policy.reject.tag, .reject)]

/-- A policy as JSON. -/
def Policy.toJson (policy : Policy) : Json := .text policy.tag

/-- The byte that a number stands for. -/
def byteOfJson? (value : Json) : Option UInt8 :=
  value.integer?.bind fun n => if 0 ≤ n ∧ n < 256 then some (UInt8.ofNat n.toNat) else none

/-- The message number that a number stands for. -/
def messageIdOfJson? (value : Json) : Option Int32 :=
  value.integer?.bind fun n =>
    if -0x80000000 ≤ n ∧ n < 0x80000000 then some (Int32.ofInt n) else none

/-- The value that an object with one member spells. The key says which kind of value it is. -/
def AssertionValue.ofJson? : Json → Option AssertionValue
  | .object [(some "Text", value)] => value.text?.map .text
  | .object [(some "Binary", value)] => (value.list? byteOfJson?).map .binary
  | _ => none

/-- A value as JSON. -/
def AssertionValue.toJson : AssertionValue → Json
  | .text s => .record [("Text", .text s)]
  | .binary bytes => .record [("Binary", .array (bytes.map fun b => .integer b.toNat))]

/-- The request that a record spells. Everything but the message number must be there. -/
def CompareRequest.ofJson? (value : Json) : Option CompareRequest := do
  let fields ← value.record? 4
  let messageId ← fields.defaulted? 0 ["message_id"] (-1) messageIdOfJson?
  let name ← fields.required? 1 ["name"] Json.text?
  let attributeId ← fields.required? 2 ["attribute_id"] Json.text?
  let value ← fields.required? 3 ["value"] AssertionValue.ofJson?
  some { messageId, name, attributeId, value }

/-- A request as JSON. -/
def CompareRequest.toJson (request : CompareRequest) : Json :=
  .record [("message_id", .integer request.messageId.toInt), ("name", .text request.name),
    ("attribute_id", .text request.attributeId), ("value", request.value.toJson)]

end Subschema
