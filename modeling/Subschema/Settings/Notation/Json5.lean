import Subschema.Json.Reader
import Subschema.Settings.Tree
import Subschema.Text.Gap
import Subschema.Text.Scan

namespace Subschema.Json5

open Text (push expect)

/-- Whether a character ends a line. -/
def endsLine (c : Char) : Bool :=
  c == '\n' || c == '\r' || c == '\u2028' || c == '\u2029'

/-- Gaps have the blanks of Unicode without NEXT LINE, and byte order marks. -/
def gap : Text.GapStyle where
  isBlank c := c == '\ufeff' || (Text.isBlank c && c != '\u0085')
  endsLine := endsLine
  nests := false

/-- The code unit that a letter after a backslash stands for. Most characters stand for themselves,
but digits do not. -/
def escapeUnit? : Char → Option Nat
  | 'b' => some 0x08
  | 'f' => some 0x0C
  | 'n' => some 0x0A
  | 'r' => some 0x0D
  | 't' => some 0x09
  | 'v' => some 0x0B
  | '0' => some 0
  | c => if c.isDigit || c == 'x' || c == 'u' then none else some c.toNat

/-- The code units of a text up to its closing quote, and what follows that. A backslash before the
end of a line joins the line to the next one. -/
def readUnits (quote : Char) : List Char → Option (List Nat × List Char)
  | [] => none
  | '\\' :: '\r' :: '\n' :: cs => readUnits quote cs
  | '\\' :: 'u' :: a :: b :: c :: d :: cs =>
    push (Text.hexValue? [a, b, c, d]) (readUnits quote cs)
  | '\\' :: 'x' :: a :: b :: cs => push (Text.hexValue? [a, b]) (readUnits quote cs)
  | '\\' :: c :: cs =>
    if endsLine c then readUnits quote cs else push (escapeUnit? c) (readUnits quote cs)
  | c :: cs =>
    if c = quote then some ([], cs)
    else if c = '\n' ∨ c = '\r' then none
    else push (some c.toNat) (readUnits quote cs)

/-- The text that code units spell, and what follows them. -/
def spell (read : Option (List Nat × List Char)) : Option (String × List Char) := do
  let (units, rest) ← read
  let cs ← Json.charsOfUnits units
  return (String.ofList cs, rest)

/-- Whether a name may begin with a character. Beyond ASCII, all but blanks count as letters. -/
def beginsName (c : Char) : Bool :=
  c.isAlpha || c == '$' || c == '_' || (c.toNat ≥ 0x80 && !gap.isBlank c)

/-- Whether a name may go on with a character. -/
def continuesName (c : Char) : Bool := beginsName c || c.isDigit || c == '^' || c == '\x60'

/-- The code units of what is left of a name, and what follows it. -/
def readNameUnits : List Char → Option (List Nat × List Char)
  | '\\' :: 'u' :: a :: b :: c :: d :: cs =>
    push (Text.hexValue? [a, b, c, d]) (readNameUnits cs)
  | c :: cs =>
    if continuesName c then push (some c.toNat) (readNameUnits cs) else some ([], c :: cs)
  | [] => some ([], [])

/-- A key, and what follows it. -/
def readKey : List Char → Option (String × List Char)
  | '"' :: cs => spell (readUnits '"' cs)
  | '\'' :: cs => spell (readUnits '\'' cs)
  | '\\' :: 'u' :: cs => spell (readNameUnits ('\\' :: 'u' :: cs))
  | c :: cs => if beginsName c then spell (readNameUnits (c :: cs)) else none
  | [] => none

/-- The exponent of a number, if one comes next, and what follows it. -/
def readExponent (cs : List Char) : Option (Int × List Char) :=
  match cs with
  | c :: rest =>
    if c = 'e' ∨ c = 'E' then
      let (negative, rest) := splitSign rest
      (natural? (rest.takeWhile Char.isDigit)).map fun n =>
        (withSign negative n, rest.dropWhile Char.isDigit)
    else none
  | [] => none

/-- A finite number, unless it is too large. -/
def finite? (x : Binary64) : Option Setting :=
  match x with
  | .finite .. => some (.real x)
  | _ => none

/-- A number in decimal digits, after its sign, and what follows it. Without a point and an exponent
it is a whole number of 64 bits. -/
def readDecimal (negative : Bool) (cs : List Char) : Option (Setting × List Char) :=
  let whole := cs.takeWhile Char.isDigit
  let rest := cs.dropWhile Char.isDigit
  if !whole.isEmpty && !isNumeral whole then none
  else
    let (point, fraction, rest) :=
      match rest with
      | '.' :: rest => (true, rest.takeWhile Char.isDigit, rest.dropWhile Char.isDigit)
      | rest => (false, [], rest)
    let digits := numeralValue (whole ++ fraction)
    if whole.isEmpty && fraction.isEmpty then none
    else
      match readExponent rest with
      | some (exponent, rest) =>
        (finite? (.ofDecimal negative digits (exponent - fraction.length))).map (·, rest)
      | none =>
        if point then (finite? (.ofDecimal negative digits (-fraction.length))).map (·, rest)
        else if fitsSigned64 (withSign negative digits) then
          some (.integer (withSign negative digits), rest)
        else none

/-- A number, and what follows it. Hexadecimal numbers have at most 32 bits and no sign; the words
for what is no finite number have no plus. -/
def readNumber : List Char → Option (Setting × List Char)
  | '0' :: 'x' :: cs | '0' :: 'X' :: cs =>
    let digits := cs.takeWhile fun c => (Text.hexDigit? c).isSome
    if digits.isEmpty then none
    else
      ((Text.hexValue? digits).filter (· < 4294967296)).map fun n =>
        (.integer n, cs.drop digits.length)
  | 'I' :: 'n' :: 'f' :: 'i' :: 'n' :: 'i' :: 't' :: 'y' :: cs => some (.real (.infinite false), cs)
  | '-' :: 'I' :: 'n' :: 'f' :: 'i' :: 'n' :: 'i' :: 't' :: 'y' :: cs =>
    some (.real (.infinite true), cs)
  | 'N' :: 'a' :: 'N' :: cs | '-' :: 'N' :: 'a' :: 'N' :: cs => some (.real .nan, cs)
  | cs => readDecimal (splitSign cs).1 (splitSign cs).2

/-- A value without brackets, and what follows it. -/
def readScalar : List Char → Option (Setting × List Char)
  | 'n' :: 'u' :: 'l' :: 'l' :: cs => some (.nothing, cs)
  | 't' :: 'r' :: 'u' :: 'e' :: cs => some (.boolean true, cs)
  | 'f' :: 'a' :: 'l' :: 's' :: 'e' :: cs => some (.boolean false, cs)
  | '"' :: cs => (spell (readUnits '"' cs)).map fun (s, rest) => (.text s, rest)
  | '\'' :: cs => (spell (readUnits '\'' cs)).map fun (s, rest) => (.text s, rest)
  | cs => readNumber cs

mutual

/-- A value, and what follows it. -/
def readValue : Nat → List Char → Option (Setting × List Char)
  | 0, _ => none
  | fuel + 1, '[' :: cs => (readItems fuel cs).map fun (items, rest) => (.list items, rest)
  | fuel + 1, '{' :: cs => (readMembers fuel cs).map fun (entries, rest) => (.table entries, rest)
  | _ + 1, cs => readScalar cs

/-- The items that are left of an array. A comma may follow the last. -/
def readItems : Nat → List Char → Option (List Setting × List Char)
  | 0, _ => none
  | fuel + 1, cs => do
    match ← gap.skip cs with
    | ']' :: rest => return ([], rest)
    | cs =>
      let (item, rest) ← readValue fuel cs
      match ← gap.skip rest with
      | ',' :: rest =>
        let (items, rest) ← readItems fuel rest
        return (item :: items, rest)
      | ']' :: rest => return ([item], rest)
      | _ => none

/-- The entries that are left of an object. A comma may follow the last. -/
def readMembers : Nat → List Char → Option (List (String × Setting) × List Char)
  | 0, _ => none
  | fuel + 1, cs => do
    match ← gap.skip cs with
    | '\x7d' :: rest => return ([], rest)
    | cs =>
      let (key, rest) ← readKey cs
      let rest ← expect ':' (← gap.skip rest)
      let (value, rest) ← readValue fuel (← gap.skip rest)
      match ← gap.skip rest with
      | ',' :: rest =>
        let (entries, rest) ← readMembers fuel rest
        return (Setting.consEntry key value entries, rest)
      | '\x7d' :: rest => return ([(key, value)], rest)
      | _ => none

end

end Subschema.Json5

/-- The settings that a JSON5 text spells: JSON with comments, names as keys, texts in single
quotes, commas after the last item, and more ways to write a number. Of a key that is given twice
the last value counts. -/
def Subschema.Setting.ofJson5? (text : String) : Option Subschema.Setting := do
  let cs ← Subschema.Json5.gap.skip text.toList
  let (setting, rest) ← Subschema.Json5.readValue (2 * text.length + 1) cs
  guard ((← Subschema.Json5.gap.skip rest).isEmpty)
  return setting
