import Subschema.Settings.Tree
import Subschema.Text.Blank
import Subschema.Text.Scan

namespace Subschema.Ini

open Text (push hexScalar?)

/-- The character that a letter after a backslash stands for; any other stands for itself. -/
def unescape : Char → Char
  | '0' => '\x00'
  | 'a' => '\x07'
  | 'b' => '\x08'
  | 't' => '\t'
  | 'r' => '\r'
  | 'n' => '\n'
  | c => c

/-- The character with a code point in four places: hexadecimal digits, perhaps after a plus. -/
def scalar? (a b c d : Char) : Option Char :=
  hexScalar? (if a = '+' then [b, c, d] else [a, b, c, d])

/-- The text up to a character that stops it, and what comes from there. Whether the end of the file
stops it too is said separately. -/
def readUntil (stops : Char → Bool) (stopsAtEnd : Bool) : List Char → Option (List Char × List Char)
  | [] => if stopsAtEnd then some ([], []) else none
  | '\\' :: '\n' :: cs =>
    if stops '\\' then some ([], '\\' :: '\n' :: cs) else readUntil stops stopsAtEnd cs
  | '\\' :: 'x' :: a :: b :: c :: d :: cs =>
    push (scalar? a b c d) (readUntil stops stopsAtEnd cs)
  | '\\' :: 'x' :: _ => none
  | '\\' :: c :: cs => push (some (unescape c)) (readUntil stops stopsAtEnd cs)
  | ['\\'] => none
  | c :: cs => if stops c then some ([], c :: cs) else push (some c) (readUntil stops stopsAtEnd cs)

/-- Whether a character ends a line. -/
def endsLine (c : Char) : Bool := c == '\n' || c == '\r'

/-- The text that is left of a line, and what comes from its end. -/
def readLine (cs : List Char) : Option (List Char × List Char) := readUntil endsLine true cs

/-- The value after the sign between key and value. What follows closing quotes belongs to it. -/
def readValue (cs : List Char) : Option (List Char × List Char) :=
  match cs.dropWhile fun c => Text.isBlank c && !endsLine c with
  | [] => some ([], [])
  | quote :: rest =>
    if quote = '"' ∨ quote = '\'' then do
      let (quoted, rest) ← readUntil (· == quote) false rest
      let (text, rest) ← readLine (rest.drop 1)
      return (quoted ++ Text.trimBlanks text, rest)
    else (readLine (quote :: rest)).map fun (text, rest) => (Text.trimBlanks text, rest)

/-- Whether a character divides key and value. -/
def divides (c : Char) : Bool := c == '=' || c == ':'

/-- A file that is being read: the entries before the first section, and the sections, the last one
first, with their entries. -/
structure Draft where
  leading : List (String × Setting) := []
  sections : List (String × List (String × Setting)) := []

/-- The draft with one more entry in the section that is open. -/
def Draft.add (draft : Draft) (entry : String × Setting) : Draft :=
  match draft.sections with
  | [] => { draft with leading := Setting.setEntry draft.leading entry.1 entry.2 }
  | (name, entries) :: sections =>
    { draft with sections := (name, Setting.setEntry entries entry.1 entry.2) :: sections }

/-- The entries of a whole file. A section takes the place of what had its name before. -/
def Draft.entries (draft : Draft) : List (String × Setting) :=
  draft.sections.reverse.foldl
    (fun all (name, entries) => Setting.setEntry all name (.table entries)) draft.leading

/-- The characters after blanks, and whether a line begins there. -/
def skipBlanks (begins : Bool) : List Char → Bool × List Char
  | [] => (begins, [])
  | c :: cs => if Text.isBlank c then skipBlanks (c == '\n') cs else (begins, c :: cs)

/-- Reads what is left of a file. The first number bounds how many lines there may be. -/
def readLines : Nat → Bool → Draft → List Char → Option Draft
  | 0, _, _, _ => none
  | fuel + 1, begins, draft, cs =>
    match skipBlanks begins cs with
    | (_, []) => some draft
    | (begins, c :: cs) =>
      if c = ';' ∨ c = '#' then
        if begins then readLines fuel true draft ((cs.dropWhile (· != '\n')).drop 1) else none
      else if c = '[' then do
        let (name, rest) ← readUntil (· == ']') false cs
        let name := String.ofList (Text.trimBlanks name)
        readLines fuel false { draft with sections := (name, []) :: draft.sections } (rest.drop 1)
      else do
        let (key, rest) ← readUntil divides false (c :: cs)
        let key := Text.trimBlanks key
        if key.isEmpty then none
        else
          let (value, rest) ← readValue (rest.drop 1)
          readLines fuel false
            (draft.add (String.ofList key, .text (String.ofList value))) rest

end Subschema.Ini

/-- The settings that an INI file spells: keys with texts, in sections under names in brackets. A
comment takes a line of its own, from the first character on. A backslash escapes the character
after it, everywhere but in comments. -/
def Subschema.Setting.ofIni? (text : String) : Option Subschema.Setting :=
  (Subschema.Ini.readLines (text.length + 1) true {} text.toList).map fun draft =>
    .table draft.entries
