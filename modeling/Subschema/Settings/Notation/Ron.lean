import Subschema.Decimal.Scaled
import Subschema.Settings.Tree
import Subschema.Text.Gap
import Subschema.Text.Scan

namespace Subschema.Ron

open Text (push expect)

/-- Gaps have four blanks; comments between marks may stand in one another. -/
def gap : Text.GapStyle where
  isBlank c := c == ' ' || c == '\t' || c == '\n' || c == '\r'
  endsLine c := c == '\n'
  nests := true

/-- Whether a name may begin with a character. -/
def beginsName (c : Char) : Bool := c.isAlpha || c == '_'

/-- Whether a name may go on with a character. -/
def continuesName (c : Char) : Bool := c.isAlphanum || c == '_'

/-- Whether a name after a mark for raw names may have a character. -/
def isRawChar (c : Char) : Bool := continuesName c || c == '.' || c == '+' || c == '-'

/-- A name, and what follows it. A name that could go on as a raw one needs the mark for that. -/
def readName (cs : List Char) : Option (String × List Char) :=
  match cs with
  | 'r' :: '"' :: _ => none
  | 'r' :: '#' :: cs =>
    let name := cs.takeWhile isRawChar
    if name.isEmpty then none else some (String.ofList name, cs.dropWhile isRawChar)
  | c :: _ =>
    let rest := cs.dropWhile continuesName
    if !beginsName c || (rest.head?.map isRawChar).getD false then none
    else some (String.ofList (cs.takeWhile continuesName), rest)
  | [] => none

/-- The character that a letter after a backslash stands for. -/
def escape? : Char → Option Char
  | '\'' => some '\''
  | '"' => some '"'
  | '\\' => some '\\'
  | 'n' => some '\n'
  | 'r' => some '\r'
  | 't' => some '\t'
  | '0' => some '\x00'
  | _ => none

/-- The code point in up to six hexadecimal digits before a closing brace, and what follows that. -/
def readScalar? (cs : List Char) : Option (Char × List Char) := do
  let digits := (cs.take 6).takeWhile (· != '\x7d')
  guard (!digits.isEmpty)
  let c ← Text.hexScalar? digits
  return (c, ← expect '\x7d' (cs.drop digits.length))

/-- What an escape stands for, read after its backslash, and what follows it. -/
def readEscape : List Char → Option (Char × List Char)
  | 'x' :: a :: b :: cs => (Text.hexScalar? [a, b]).map (·, cs)
  | 'u' :: '\x7b' :: cs => readScalar? cs
  | c :: cs => (escape? c).map (·, cs)
  | [] => none

/-- A text with escapes up to its closing quote, and what follows that. The number bounds how many
characters there are. -/
def readText : Nat → List Char → Option (List Char × List Char)
  | 0, _ | _, [] => none
  | fuel + 1, c :: cs =>
    if c = '"' then some ([], cs)
    else if c = '\\' then
      (readEscape cs).bind fun (e, rest) => push (some e) (readText fuel rest)
    else push (some c) (readText fuel cs)

/-- A text without escapes up to a quote and as many hash signs as come before its first quote, and
what follows them. -/
def readRawText (hashes : List Char) : List Char → Option (List Char × List Char)
  | [] => none
  | c :: cs =>
    if c = '"' ∧ hashes.isPrefixOf cs then some ([], cs.drop hashes.length)
    else push (some c) (readRawText hashes cs)

/-- A single character in quotes, read after the first one, and what follows them. -/
def readCharacter : List Char → Option (Char × List Char)
  | '\\' :: cs => do
    let (c, rest) ← readEscape cs
    return (c, ← expect '\'' rest)
  | c :: '\'' :: cs => if c = '\'' then none else some (c, cs)
  | _ => none

/-- A text or a character in quotes, and what follows it. -/
def readQuoted (cs : List Char) : Option (String × List Char) :=
  match cs with
  | '"' :: cs => (readText cs.length cs).map fun (text, rest) => (String.ofList text, rest)
  | 'r' :: cs =>
    let hashes := cs.takeWhile (· == '#')
    match cs.drop hashes.length with
    | '"' :: rest =>
      (readRawText hashes rest).map fun (text, rest) => (String.ofList text, rest)
    | _ => none
  | '\'' :: cs => (readCharacter cs).map fun (c, rest) => (c.toString, rest)
  | _ => none

/-- Whether a floating-point number may have a character. Underscores are only refused later. -/
def isFloatChar (c : Char) : Bool :=
  c.isDigit || c == 'e' || c == 'E' || c == '.' || c == '+' || c == '-' || c == '_'

/-- Whether a whole number may have a character, in any base. -/
def isDigitChar (c : Char) : Bool := (Text.hexDigit? c).isSome || c == '_'

/-- A floating-point number, and what follows it. -/
def readFloat (cs : List Char) : Option (Setting × List Char) :=
  let digits := cs.takeWhile isFloatChar
  if digits.contains '_' then none
  else (Binary64.read? digits).map fun x => (.real x, cs.dropWhile isFloatChar)

/-- The base that the first characters of a whole number say, and the rest. -/
def splitBase : List Char → Nat × List Char
  | '0' :: 'x' :: cs => (16, cs)
  | '0' :: 'b' :: cs => (2, cs)
  | '0' :: 'o' :: cs => (8, cs)
  | cs => (10, cs)

/-- The number that digits of a base spell. Underscores count for nothing, but not in front. -/
def wholeValue? (base : Nat) (digits : List Char) : Option Nat :=
  if digits.isEmpty || digits.head? == some '_' then none
  else Text.digitsValue? base (digits.filter (· != '_'))

/-- A whole number of 64 bits, and what follows it. Without a sign it may be too large for a setting
with one, and is a floating-point number then. -/
def readWhole (cs : List Char) : Option (Setting × List Char) :=
  let signed := cs.head? == some '-' || cs.head? == some '+'
  let (negative, body) := splitSign cs
  let (base, body) := splitBase body
  (wholeValue? base (body.takeWhile isDigitChar)).bind fun n =>
    let rest := body.dropWhile isDigitChar
    if fitsSigned64 (withSign negative n) then some (.integer (withSign negative n), rest)
    else if !signed && n ≤ Decimal.greatestCount then some (.real (.ofQuotient false n 1), rest)
    else none

/-- A number, and what follows it. What is not a whole number of 64 bits is read as a floating-point
number. -/
def readNumber (cs : List Char) : Option (Setting × List Char) :=
  let body := (splitSign cs).2
  if (body.takeWhile isDigitChar).length < (body.takeWhile isFloatChar).length then readFloat cs
  else
    match readWhole cs with
    | some read => some read
    | none => readFloat cs

/-- What comes in round brackets. -/
inductive Enclosed where
  | items
  | fields

/-- Whether round brackets, read after the opening one, hold items or named fields. -/
def enclosed? (cs : List Char) : Option Enclosed := do
  match readName (← gap.skip cs) with
  | none => return .items
  | some (_, rest) =>
    match ← gap.skip rest with
    | [] => none
    | c :: _ => return if c = ':' then .fields else .items

/-- The word at the start, unless the text goes on as part of it. -/
def leadingWord (cs : List Char) : String := String.ofList (cs.takeWhile continuesName)

/-- A word that stands for a value. -/
def wordValue? : String → Option Setting
  | "true" => some (.boolean true)
  | "false" => some (.boolean false)
  | "None" => some .nothing
  | "inf" => some (.real (.infinite false))
  | "NaN" => some (.real .nan)
  | _ => none

mutual

/-- A value, and what follows it. The first number says how many more values may be nested. -/
def readValue (room : Nat) : Nat → List Char → Option (Setting × List Char)
  | 0, _ => none
  | fuel + 1, cs =>
    match wordValue? (leadingWord cs) with
    | some value => some (value, cs.dropWhile continuesName)
    | none =>
      if leadingWord cs = "Some" then readOption room fuel (cs.dropWhile continuesName)
      else
        match readName cs with
        | some (_, rest) =>
          (gap.skip rest).bind fun rest =>
            match rest with
            | '(' :: rest => readEnclosed room fuel rest
            | rest => some (.nothing, rest)
        | none =>
          match cs with
          | '(' :: ')' :: rest => some (.nothing, rest)
          | '(' :: rest => readEnclosed room fuel rest
          | '[' :: rest =>
            (readItems room ']' fuel rest).map fun (items, rest) => (.list items, rest)
          | '\x7b' :: rest =>
            (readEntries room fuel rest).map fun (entries, rest) => (.table entries, rest)
          | '-' :: 'i' :: 'n' :: 'f' :: rest =>
            if (rest.head?.map continuesName).getD false then none
            else some (.real (.infinite true), rest)
          | c :: _ =>
            if c.isDigit || c == '+' || c == '-' || c == '.' then readNumber cs
            else (readQuoted cs).map fun (s, rest) => (.text s, rest)
          | [] => none
termination_by structural fuel => fuel

/-- The value of an option that has one, read after its word. -/
def readOption (room : Nat) : Nat → List Char → Option (Setting × List Char)
  | 0, _ => none
  | fuel + 1, cs => do
    guard (room != 0)
    let rest ← expect '(' (← gap.skip cs)
    let (value, rest) ← readValue (room - 1) fuel (← gap.skip rest)
    let rest ← gap.skip rest
    let rest ← gap.skip ((expect ',' rest).getD rest)
    return (value, ← expect ')' rest)
termination_by structural fuel => fuel

/-- What is in round brackets, read after the opening one. -/
def readEnclosed (room : Nat) : Nat → List Char → Option (Setting × List Char)
  | 0, _ => none
  | fuel + 1, cs =>
    (enclosed? cs).bind fun kind =>
      match kind with
      | .items => (readItems room ')' fuel cs).map fun (items, rest) => (.list items, rest)
      | .fields => (readFields room fuel cs).map fun (entries, rest) => (.table entries, rest)
termination_by structural fuel => fuel

/-- The items that are left before a closing bracket. A comma may follow the last. -/
def readItems (room : Nat) (close : Char) : Nat → List Char → Option (List Setting × List Char)
  | 0, _ => none
  | fuel + 1, cs => do
    let cs ← gap.skip cs
    if cs.head? = some close then return ([], cs.drop 1)
    guard (room != 0)
    let (item, rest) ← readValue (room - 1) fuel cs
    match ← gap.skip rest with
    | ',' :: rest =>
      let (items, rest) ← readItems room close fuel rest
      return (item :: items, rest)
    | rest => return ([item], ← expect close rest)
termination_by structural fuel => fuel

/-- The fields that are left of a structure, up to its closing bracket. -/
def readFields (room : Nat) : Nat → List Char → Option (List (String × Setting) × List Char)
  | 0, _ => none
  | fuel + 1, cs => do
    let cs ← gap.skip cs
    if cs.head? = some ')' then return ([], cs.drop 1)
    let (key, rest) ← readName cs
    let (value, rest) ← readAssigned room fuel rest
    match ← gap.skip rest with
    | ',' :: rest =>
      let (entries, rest) ← readFields room fuel rest
      return (Setting.consEntry key value entries, rest)
    | rest => return ([(key, value)], ← expect ')' rest)
termination_by structural fuel => fuel

/-- The entries that are left of a map, up to its closing bracket. Keys are texts. -/
def readEntries (room : Nat) : Nat → List Char → Option (List (String × Setting) × List Char)
  | 0, _ => none
  | fuel + 1, cs => do
    let cs ← gap.skip cs
    if cs.head? = some '\x7d' then return ([], cs.drop 1)
    let (key, rest) ← readQuoted cs
    let (value, rest) ← readAssigned room fuel rest
    match ← gap.skip rest with
    | ',' :: rest =>
      let (entries, rest) ← readEntries room fuel rest
      return (Setting.consEntry key value entries, rest)
    | rest => return ([(key, value)], ← expect '\x7d' rest)
termination_by structural fuel => fuel

/-- The value after a key and its colon. -/
def readAssigned (room : Nat) : Nat → List Char → Option (Setting × List Char)
  | 0, _ => none
  | fuel + 1, cs => do
    guard (room != 0)
    let rest ← expect ':' (← gap.skip cs)
    readValue (room - 1) fuel (← gap.skip rest)
termination_by structural fuel => fuel

end

/-- The names of what a head may switch on. Nothing in settings depends on it. -/
def features : List String := ["unwrap_newtypes", "implicit_some", "unwrap_variant_newtypes"]

/-- What follows the names that are left in a head, and its brackets. -/
def readFeatures : Nat → List Char → Option (List Char)
  | 0, _ => none
  | fuel + 1, cs => do
    let (name, rest) ← readName cs
    guard (features.contains name)
    let rest ← gap.skip rest
    let next := ((expect ',' rest).getD rest)
    let next ← gap.skip next
    if (next.head?.map continuesName).getD false then
      guard ((expect ',' rest).isSome)
      readFeatures fuel next
    else expect ']' (← gap.skip (← expect ')' next))

/-- What follows the heads of a text. The number bounds how many there are. -/
def skipHeads : Nat → List Char → Option (List Char)
  | 0, _ => none
  | fuel + 1, cs => do
    match ← gap.skip cs with
    | '#' :: rest =>
      let rest ← expect '!' (← gap.skip rest)
      let rest ← expect '[' (← gap.skip rest)
      let rest ← gap.skip rest
      guard ("enable".toList.isPrefixOf rest)
      let rest ← expect '(' (← gap.skip (rest.drop 6))
      skipHeads fuel (← readFeatures fuel (← gap.skip rest))
    | cs => return cs

/-- How many values may be nested in one another. -/
def nestingLimit : Nat := 128

end Subschema.Ron

/-- The settings that a RON text spells: values in the shape of structures, tuples, lists, maps and
options. Names of structures say nothing. Nesting has a limit, and of a key that is given twice the
last value counts. -/
def Subschema.Setting.ofRon? (text : String) : Option Subschema.Setting := do
  let fuel := 3 * text.length + 2
  let cs ← Subschema.Ron.skipHeads fuel text.toList
  let (setting, rest) ← Subschema.Ron.readValue Subschema.Ron.nestingLimit fuel cs
  guard ((← Subschema.Ron.gap.skip rest).isEmpty)
  return setting
