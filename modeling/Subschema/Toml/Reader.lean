import Subschema.Toml.Quoted
import Subschema.Toml.Word

namespace Subschema.Toml

open Text (expect)

/-- The characters from the next one that is no blank. -/
def skipBlanks (cs : List Char) : List Char := cs.dropWhile isBlank

/-- The characters after a comment, if one comes next. -/
def skipComment : List Char → List Char
  | '#' :: cs => cs.dropWhile isPlain
  | cs => cs

/-- What follows the line, if only blanks and a comment are left on it. -/
def endLine (cs : List Char) : Option (List Char) :=
  match skipComment (skipBlanks cs) with
  | [] => some []
  | cs => afterBreak? cs

/-- The characters after blanks, comments and line breaks. -/
def skipLines : Nat → List Char → List Char
  | 0, cs => cs
  | fuel + 1, cs =>
    let cs := skipComment (skipBlanks cs)
    match afterBreak? cs with
    | some rest => skipLines fuel rest
    | none => cs

/-- How many levels brackets and dotted keys must stay below. -/
def nestingLimit : Nat := 80

/-- Whether a key without quotes may have a character. -/
def isKeyChar (c : Char) : Bool := c.isAlphanum || c == '_' || c == '-'

/-- One part of a key, and what follows it. -/
def readKeyPart (cs : List Char) : Option (String × List Char) :=
  let name := cs.takeWhile isKeyChar
  if !name.isEmpty then some (String.ofList name, cs.dropWhile isKeyChar)
  else
    (match cs with
      | '"' :: cs => readBasic cs
      | '\'' :: cs => readLiteral cs
      | _ => none).map fun (name, rest) => (String.ofList name, rest)

/-- The parts of a key up to the last one, the last one, and what follows it. Blanks may stand
around the dots. -/
def readKeyParts : Nat → List Char → Option (List String × String × List Char)
  | 0, _ => none
  | fuel + 1, cs => do
    let (name, rest) ← readKeyPart (skipBlanks cs)
    match skipBlanks rest with
    | '.' :: rest =>
      let (path, key, rest) ← readKeyParts fuel rest
      return (name :: path, key, rest)
    | rest => return ([], name, rest)

/-- A key with the parts before it, first to last, and what follows it. It must not have too many
parts. -/
def readKey (fuel : Nat) (cs : List Char) : Option (List String × String × List Char) :=
  (readKeyParts fuel cs).filter fun (path, _) => path.length + 1 < nestingLimit

/-- Whether a value without quotes or brackets may have a character. -/
def isWordChar (c : Char) : Bool :=
  c.isAlphanum || c == '_' || c == '-' || c == '+' || c == '.' || c == ':'

/-- A value without quotes or brackets, and what follows it. -/
def readPlain (cs : List Char) : Option (Toml × List Char) :=
  match Moment.read cs with
  | some (m, rest) => some (.moment m, rest)
  | none =>
    (readWord (cs.takeWhile isWordChar)).map fun value => (value, cs.dropWhile isWordChar)

mutual

/-- A value, and what follows it. The first number says how many more brackets may be nested. -/
def readValue (room : Nat) : Nat → List Char → Option (Toml × List Char)
  | 0, _ => none
  | fuel + 1, cs =>
    match cs with
    | '[' :: cs =>
      if room = 0 then none
      else (readItems (room - 1) fuel cs).map fun (items, rest) => (.array items, rest)
    | '{' :: cs =>
      if room = 0 then none
      else
        match skipBlanks cs with
        | '}' :: rest => some (.table .braced [], rest)
        | cs => readMembers (room - 1) fuel empty cs
    | '"' :: _ | '\'' :: _ => (readQuoted cs).map fun (s, rest) => (.text (String.ofList s), rest)
    | cs => readPlain cs

/-- The items that are left of an array. A comma may follow the last. -/
def readItems (room : Nat) : Nat → List Char → Option (List Toml × List Char)
  | 0, _ => none
  | fuel + 1, cs =>
    match skipLines (fuel + 1) cs with
    | ']' :: rest => some ([], rest)
    | cs => do
      let (item, rest) ← readValue room fuel cs
      match skipLines (fuel + 1) rest with
      | ',' :: rest =>
        let (items, rest) ← readItems room fuel rest
        return (item :: items, rest)
      | ']' :: rest => return ([item], rest)
      | _ => none

/-- The entries that are left of a table in braces. No comma may follow the last. -/
def readMembers (room : Nat) : Nat → Toml → List Char → Option (Toml × List Char)
  | 0, _, _ => none
  | fuel + 1, node, cs => do
    let (path, key, rest) ← readKey (fuel + 1) cs
    let rest ← expect '=' rest
    let (value, rest) ← readValue room fuel (skipBlanks rest)
    let node ← assign path key value node
    match skipBlanks rest, node with
    | ',' :: rest, node => readMembers room fuel node rest
    | '}' :: rest, .table _ entries => return (.table .braced entries, rest)
    | _, _ => none

end

/-- A document that is being read, and the header that its next entries belong to. -/
structure Draft where
  root : Toml := .empty
  header : List String := []

/-- One header, after its opening brackets. -/
def readHeader (fuel : Nat) (double : Bool) (draft : Draft) (cs : List Char) :
    Option (Draft × List Char) := do
  let (path, key, rest) ← readKey fuel cs
  let rest ← expect ']' rest
  let rest ← if double then expect ']' rest else some rest
  let open? := if double then addToSeries key else addTable key
  let root ← alterAt .implied open? path draft.root
  return (⟨root, path ++ [key]⟩, rest)

/-- One assignment. -/
def readAssignment (fuel : Nat) (draft : Draft) (cs : List Char) : Option (Draft × List Char) := do
  let (path, key, rest) ← readKey fuel cs
  let rest ← expect '=' rest
  let (value, rest) ← readValue (nestingLimit - 1) fuel (skipBlanks rest)
  let root ← assignBelow draft.header path key value draft.root
  return ({ draft with root }, rest)

/-- One header or assignment. -/
def readStatement (fuel : Nat) (draft : Draft) (cs : List Char) : Option (Draft × List Char) :=
  match cs with
  | '[' :: '[' :: rest => readHeader fuel true draft rest
  | '[' :: rest => readHeader fuel false draft rest
  | cs => readAssignment fuel draft cs

/-- The statements that are left of a document, one a line. -/
def readStatements : Nat → Draft → List Char → Option Toml
  | 0, _, _ => none
  | fuel + 1, draft, cs =>
    match skipLines (fuel + 1) cs with
    | [] => some draft.root
    | cs => do
      let (draft, rest) ← readStatement (fuel + 1) draft cs
      let rest ← endLine rest
      readStatements fuel draft rest

/-- The characters without a byte order mark at the start. -/
def dropMark : List Char → List Char
  | '\ufeff' :: cs => cs
  | cs => cs

/-- The document that a text spells. Where a loop on the way does not follow the characters one by
one, it is bounded by a number that the length of the document is large enough for. -/
def parse? (s : String) : Option Toml :=
  readStatements (2 * s.length + 2) {} (dropMark s.toList)

end Subschema.Toml
