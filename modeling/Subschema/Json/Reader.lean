import Subschema.Json.Value
import Subschema.Text.Hex

namespace Subschema.Json

/-- A container that has been opened and not closed: what it holds so far, last first, and for an
object the key whose value is being read. -/
inductive Frame where
  | array (before : List Json)
  | object (before : List (Option String × Json)) (key : Option String)

/-- What a string will be once it ends. -/
inductive StringRole where
  | value
  | key (before : List (Option String × Json))

/-- Where the reader stands inside an escape. -/
inductive Escape where
  | outside
  | backslash
  | hex (missing unit : Nat)

/-- A string that is being read: the code units so far, last first. -/
structure StringScan where
  units : List Nat := []
  escape : Escape := .outside

/-- Which part of a number was read last. -/
inductive NumberPart where
  | minus
  | zero
  | whole
  | point
  | fraction
  | exponent
  | exponentSign
  | exponentDigits
  deriving DecidableEq

/-- A number that is being read: its sign, the value of its digits before the point, those after it,
last first, and its exponent. -/
structure NumberScan where
  part : NumberPart
  negative : Bool := false
  whole : Nat := 0
  fraction : List Char := []
  shrinks : Bool := false
  exponent : Nat := 0

/-- What the reader is in the middle of. -/
inductive Mode where
  /-- A value has to come, or the end of an array that was just opened. -/
  | value (closable : Bool)
  /-- A key has to come, or the end of an object that was just opened. -/
  | key (before : List (Option String × Json)) (closable : Bool)
  /-- The colon after a key has to come. -/
  | colon (before : List (Option String × Json)) (key : Option String)
  /-- A value is complete. -/
  | complete (value : Json)
  | string (role : StringRole) (scan : StringScan)
  | number (scan : NumberScan)
  /-- The rest of a word, and the value that the word stands for. -/
  | word (rest : List Char) (value : Json)

/-- The state of the reader: what it is doing, and the open containers, innermost first. A step
takes one character, so reading a text is a fold over its characters, and nesting costs an entry on
the list of containers and nothing else. -/
structure Reader where
  mode : Mode
  frames : List Frame

/-- The reader before the first character. -/
def Reader.start : Reader := ⟨.value false, []⟩

/-- The four characters that may stand between tokens. -/
def isSpace (c : Char) : Bool :=
  c == ' ' || c == '\t' || c == '\n' || c == '\r'

/-- Whether a code unit is the first half of a surrogate pair. -/
def isHighSurrogate (u : Nat) : Bool := 0xD800 ≤ u && u < 0xDC00

/-- Whether a code unit is the second half of a surrogate pair. -/
def isLowSurrogate (u : Nat) : Bool := 0xDC00 ≤ u && u < 0xE000

/-- The characters that code units spell, or `none` if a surrogate has no partner. -/
def charsOfUnits : List Nat → Option (List Char)
  | [] => some []
  | u :: rest =>
    if isHighSurrogate u then
      match rest with
      | [] => none
      | v :: rest =>
        if isLowSurrogate v then
          (charsOfUnits rest).map
            (Char.ofNat (0x10000 + (u - 0xD800) * 0x400 + (v - 0xDC00)) :: ·)
        else none
    else if isLowSurrogate u then none
    else (charsOfUnits rest).map (Char.ofNat u :: ·)

/-- The text of a finished string. -/
def StringScan.text (scan : StringScan) : Option String :=
  (charsOfUnits scan.units.reverse).map String.ofList

/-- The code unit that a one-letter escape stands for. -/
def escapeUnit? : Char → Option Nat
  | '"' => some 0x22
  | '\\' => some 0x5C
  | '/' => some 0x2F
  | 'b' => some 0x08
  | 'f' => some 0x0C
  | 'n' => some 0x0A
  | 'r' => some 0x0D
  | 't' => some 0x09
  | _ => none

/-- One more character of a string, the closing quote excepted. -/
def StringScan.step (scan : StringScan) (c : Char) : Option StringScan :=
  match scan.escape with
  | .outside =>
    if c = '\\' then some { scan with escape := .backslash }
    else if c.toNat < 0x20 then none
    else some { scan with units := c.toNat :: scan.units }
  | .backslash =>
    if c = 'u' then some { scan with escape := .hex 4 0 }
    else (escapeUnit? c).map fun unit => ⟨unit :: scan.units, .outside⟩
  | .hex missing unit =>
    (Text.hexDigit? c).map fun digit =>
      if missing ≤ 1 then ⟨(unit * 16 + digit) :: scan.units, .outside⟩
      else { scan with escape := .hex (missing - 1) (unit * 16 + digit) }

/-- Whether the closing quote ends the string here. -/
def StringScan.atEnd (scan : StringScan) (c : Char) : Bool :=
  match scan.escape with
  | .outside => c == '"'
  | _ => false

/-- A number with one more digit. -/
def pushDigit (n : Nat) (c : Char) : Nat := n * 10 + (c.toNat - '0'.toNat)

/-- One more character of a number, or `none` if it does not belong to the number. -/
def NumberScan.step (scan : NumberScan) (c : Char) : Option NumberScan :=
  match scan.part with
  | .minus =>
    if c = '0' then some { scan with part := .zero }
    else if c.isDigit then some { scan with part := .whole, whole := pushDigit 0 c }
    else none
  | .zero =>
    if c = '.' then some { scan with part := .point }
    else if c = 'e' ∨ c = 'E' then some { scan with part := .exponent }
    else none
  | .whole =>
    if c.isDigit then some { scan with whole := pushDigit scan.whole c }
    else if c = '.' then some { scan with part := .point }
    else if c = 'e' ∨ c = 'E' then some { scan with part := .exponent }
    else none
  | .point =>
    if c.isDigit then some { scan with part := .fraction, fraction := [c] } else none
  | .fraction =>
    if c.isDigit then some { scan with fraction := c :: scan.fraction }
    else if c = 'e' ∨ c = 'E' then some { scan with part := .exponent }
    else none
  | .exponent =>
    if c = '+' then some { scan with part := .exponentSign }
    else if c = '-' then some { scan with part := .exponentSign, shrinks := true }
    else if c.isDigit then some { scan with part := .exponentDigits, exponent := pushDigit 0 c }
    else none
  | .exponentSign =>
    if c.isDigit then some { scan with part := .exponentDigits, exponent := pushDigit 0 c } else none
  | .exponentDigits =>
    if c.isDigit then some { scan with exponent := pushDigit scan.exponent c } else none

/-- The decimal number that ends here. -/
def NumberScan.decimal (scan : NumberScan) : Json :=
  .decimal ⟨scan.negative, scan.whole, scan.fraction.reverse,
    if scan.shrinks then -(scan.exponent : Int) else scan.exponent⟩

/-- The value of a number that ends here, if it may end here. -/
def NumberScan.value? (scan : NumberScan) : Option Json :=
  match scan.part with
  | .zero => some (if scan.negative then scan.decimal else .integer 0)
  | .whole => some (.integer (if scan.negative then -(scan.whole : Int) else scan.whole))
  | .fraction | .exponentDigits => some scan.decimal
  | _ => none

/-- A character after a complete value: a comma goes on in the innermost container, a bracket
closes it. -/
def afterValue (value : Json) (frames : List Frame) (c : Char) : Option Reader :=
  if isSpace c then some ⟨.complete value, frames⟩
  else if c = ',' then
    match frames with
    | .array before :: frames => some ⟨.value false, .array (value :: before) :: frames⟩
    | .object before key :: frames => some ⟨.key ((key, value) :: before) false, frames⟩
    | [] => none
  else if c = ']' then
    match frames with
    | .array before :: frames => some ⟨.complete (.array (value :: before).reverse), frames⟩
    | _ => none
  else if c = '}' then
    match frames with
    | .object before key :: frames =>
      some ⟨.complete (.object ((key, value) :: before).reverse), frames⟩
    | _ => none
  else none

/-- A character where a value has to come. -/
def atValue (closable : Bool) (frames : List Frame) (c : Char) : Option Reader :=
  if isSpace c then some ⟨.value closable, frames⟩
  else if c = '{' then some ⟨.key [] true, frames⟩
  else if c = '[' then some ⟨.value true, .array [] :: frames⟩
  else if c = '"' then some ⟨.string .value {}, frames⟩
  else if c = '-' then some ⟨.number { part := .minus, negative := true }, frames⟩
  else if c = '0' then some ⟨.number { part := .zero }, frames⟩
  else if c.isDigit then
    some ⟨.number { part := .whole, whole := pushDigit 0 c }, frames⟩
  else if c = 't' then some ⟨.word ['r', 'u', 'e'] (.bool true), frames⟩
  else if c = 'f' then some ⟨.word ['a', 'l', 's', 'e'] (.bool false), frames⟩
  else if c = 'n' then some ⟨.word ['u', 'l', 'l'] .null, frames⟩
  else if c = ']' && closable then
    match frames with
    | .array _ :: frames => some ⟨.complete (.array []), frames⟩
    | _ => none
  else none

/-- The reader after one more character, or `none` where no JSON text goes on like this. -/
def Reader.step (reader : Reader) (c : Char) : Option Reader :=
  match reader.mode with
  | .value closable => atValue closable reader.frames c
  | .key before closable =>
    if isSpace c then some reader
    else if c = '"' then some ⟨.string (.key before) {}, reader.frames⟩
    else if c = '}' && closable then some ⟨.complete (.object []), reader.frames⟩
    else none
  | .colon before key =>
    if isSpace c then some reader
    else if c = ':' then some ⟨.value false, .object before key :: reader.frames⟩
    else none
  | .complete value => afterValue value reader.frames c
  | .string role scan =>
    if scan.atEnd c then
      match role with
      | .value => some ⟨.complete (.string scan.text), reader.frames⟩
      | .key before => some ⟨.colon before scan.text, reader.frames⟩
    else (scan.step c).map fun scan => ⟨.string role scan, reader.frames⟩
  | .number scan =>
    match scan.step c with
    | some scan => some ⟨.number scan, reader.frames⟩
    | none => scan.value?.bind fun value => afterValue value reader.frames c
  | .word rest value =>
    match rest with
    | [] => none
    | [d] => if c = d then some ⟨.complete value, reader.frames⟩ else none
    | d :: rest => if c = d then some ⟨.word rest value, reader.frames⟩ else none

/-- The value that has been read, if the text may end here. -/
def Reader.result? (reader : Reader) : Option Json :=
  match reader.mode, reader.frames with
  | .complete value, [] => some value
  | .number scan, [] => scan.value?
  | _, _ => none

/-- The reader after all the characters. -/
def Reader.run (reader : Reader) (cs : List Char) : Option Reader :=
  cs.foldlM Reader.step reader

/-- The value of a JSON text. -/
def parse? (s : String) : Option Json :=
  (Reader.start.run s.toList).bind Reader.result?

/-- Reading two texts in a row is reading the first and going on with the second. -/
theorem Reader.run_append (reader : Reader) (cs ds : List Char) :
    reader.run (cs ++ ds) = (reader.run cs).bind fun reader => reader.run ds := by
  simp only [Reader.run, List.foldlM_append]
  rfl

end Subschema.Json
