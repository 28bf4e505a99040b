import Subschema.Json.Value
import Subschema.Text.Hex

namespace Subschema.Json

/-- A character of a string, escaped where it has to be, in front of the rest. All writers put the
text of a value in front of given characters, so that no part of a text is copied twice. -/
def writeChar (c : Char) (rest : List Char) : List Char :=
  if c = '"' then '\\' :: '"' :: rest
  else if c = '\\' then '\\' :: '\\' :: rest
  else if c = '\n' then '\\' :: 'n' :: rest
  else if c = '\r' then '\\' :: 'r' :: rest
  else if c = '\t' then '\\' :: 't' :: rest
  else if c.toNat = 0x08 then '\\' :: 'b' :: rest
  else if c.toNat = 0x0C then '\\' :: 'f' :: rest
  else if c.toNat < 0x20 then
    '\\' :: 'u' :: '0' :: '0' :: Text.hexDigit (c.toNat / 16) :: Text.hexDigit (c.toNat % 16) :: rest
  else c :: rest

/-- A string in quotes. One that no text can spell is written as the escape that reads back as
such. -/
def writeString (text : Option String) (rest : List Char) : List Char :=
  '"' ::
    match text with
    | some s => s.toList.foldr writeChar ('"' :: rest)
    | none => "\\ud800".toList ++ '"' :: rest

/-- An integer in digits. -/
def writeInteger (n : Int) (rest : List Char) : List Char :=
  (toString n).toList ++ rest

/-- A decimal number, always with its exponent. -/
def writeDecimal (d : JsonDecimal) (rest : List Char) : List Char :=
  let tail := 'e' :: writeInteger d.exponent rest
  let body := writeInteger d.whole
    (if d.fraction.isEmpty then tail else '.' :: (d.fraction ++ tail))
  if d.negative then '-' :: body else body

mutual

/-- The text of a value, with nothing between the tokens. -/
def write : Json → List Char → List Char
  | .null, rest => "null".toList ++ rest
  | .bool true, rest => "true".toList ++ rest
  | .bool false, rest => "false".toList ++ rest
  | .integer n, rest => writeInteger n rest
  | .decimal d, rest => writeDecimal d rest
  | .string text, rest => writeString text rest
  | .array [], rest => '[' :: ']' :: rest
  | .array (item :: items), rest => '[' :: write item (writeItems items (']' :: rest))
  | .object [], rest => '{' :: '}' :: rest
  | .object ((key, value) :: members), rest =>
    '{' :: writeString key (':' :: write value (writeMembers members ('}' :: rest)))

/-- The items after the first, each after a comma. -/
def writeItems : List Json → List Char → List Char
  | [], rest => rest
  | item :: items, rest => ',' :: write item (writeItems items rest)

/-- The members after the first, each after a comma. -/
def writeMembers : List (Option String × Json) → List Char → List Char
  | [], rest => rest
  | (key, value) :: members, rest =>
    ',' :: writeString key (':' :: write value (writeMembers members rest))

end

/-- The text of a value on one line. -/
def render (value : Json) : String :=
  String.ofList (value.write [])

/-- A new line at a depth of nesting, two blanks for each level. -/
def newLine (depth : Nat) (rest : List Char) : List Char :=
  '\n' :: (List.replicate (2 * depth) ' ' ++ rest)

mutual

/-- The text of a value laid out over lines, one item or member a line. -/
def layOut (depth : Nat) : Json → List Char → List Char
  | .array (item :: items), rest =>
    '[' :: newLine (depth + 1)
      (layOut (depth + 1) item (layOutItems (depth + 1) items (newLine depth (']' :: rest))))
  | .object ((key, value) :: members), rest =>
    '{' :: newLine (depth + 1)
      (writeString key (':' :: ' ' :: layOut (depth + 1) value
        (layOutMembers (depth + 1) members (newLine depth ('}' :: rest)))))
  | value, rest => write value rest

/-- The items after the first. -/
def layOutItems (depth : Nat) : List Json → List Char → List Char
  | [], rest => rest
  | item :: items, rest =>
    ',' :: newLine depth (layOut depth item (layOutItems depth items rest))

/-- The members after the first. -/
def layOutMembers (depth : Nat) : List (Option String × Json) → List Char → List Char
  | [], rest => rest
  | (key, value) :: members, rest =>
    ',' :: newLine depth
      (writeString key (':' :: ' ' :: layOut depth value (layOutMembers depth members rest)))

end

/-- The text of a value over several lines. -/
def renderLines (value : Json) : String :=
  String.ofList (value.layOut 0 [])

end Subschema.Json
