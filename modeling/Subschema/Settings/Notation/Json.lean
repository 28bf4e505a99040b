import Subschema.Decimal.Scaled
import Subschema.Json.Reader
import Subschema.Settings.Tree

namespace Subschema

/-- How many levels brackets must stay below. -/
def Json.nestingLimit : Nat := 128

/-- An integer, as a floating-point number if it does not fit into 64 bits with a sign. -/
def Setting.ofInteger? (n : Int) : Option Setting :=
  if fitsSigned64 n then some (.integer n)
  else (Decimal.scaled? (n < 0) (Nat.toDigits 10 n.natAbs) [] 0).map .real

mutual

/-- The setting that a JSON value stands for. The number says how many more brackets may be nested.
-/
def Json.toSetting? (room : Nat) : Json → Option Setting
  | .null => some .nothing
  | .bool b => some (.boolean b)
  | .integer n => Setting.ofInteger? n
  | .decimal d =>
    (Decimal.scaled? d.negative (Nat.toDigits 10 d.whole) d.fraction d.exponent).map .real
  | .string text => text.map .text
  | .array items => if room = 0 then none else (Json.toSettings? (room - 1) items).map .list
  | .object members => if room = 0 then none else (Json.toEntries? (room - 1) members).map .table

/-- The settings that JSON values stand for. -/
def Json.toSettings? (room : Nat) : List Json → Option (List Setting)
  | [] => some []
  | item :: items => do
    let setting ← item.toSetting? room
    let settings ← Json.toSettings? room items
    return setting :: settings

/-- The entries that the members of an object stand for. -/
def Json.toEntries? (room : Nat) :
    List (Option String × Json) → Option (List (String × Setting))
  | [] => some []
  | (key, value) :: members => do
    let key ← key
    let setting ← value.toSetting? room
    let entries ← Json.toEntries? room members
    return Setting.consEntry key setting entries

end

/-- The settings that a JSON text spells. Every string and number must be a usable one, and brackets
may be nested up to a limit. Of a key that is given twice the last value counts. -/
def Setting.ofJson? (text : String) : Option Setting :=
  (Json.parse? text).bind (Json.toSetting? (Json.nestingLimit - 1))

end Subschema
