import Subschema.Text.Scan
import Subschema.Yaml.Cursor

namespace Subschema.Yaml

/-- A part of a text that is blank: the blanks, as long as no line ends, how many lines end, and the
place after it. A text may go over several lines, which are joined by spaces; blank lines among them
are ends of lines in the text. -/
structure Fold where
  blanks : List Char
  breaks : Nat
  after : Cursor

/-- What a number of ends of lines is in a text. -/
def breaksText (count : Nat) : List Char := List.replicate count '\n'

/-- What a blank part of a text stands for: the end of one line is a space. -/
def Fold.text (fold : Fold) : List Char :=
  match fold.breaks with
  | 0 => fold.blanks
  | 1 => [' ']
  | count + 1 => breaksText count

/-- The blank part that goes on at a place, after blanks, last first, and a number of ends of lines.
A tab may not stand in indentation, unless it is said that it may on blank lines. -/
def foldFrom (least : Nat) (lenient : Bool) (blanks : List Char) (breaks line column : Nat) :
    List Char → Option Fold
  | [] => some ⟨blanks.reverse, breaks, line, column, []⟩
  | '\n' :: cs => foldFrom least lenient blanks (breaks + 1) (line + 1) 0 cs
  | c :: cs =>
    if isBlank c then
      if breaks = 0 then foldFrom least lenient (c :: blanks) breaks line (column + 1) cs
      else if c = '\t' ∧ column < least then
        let left := cs.dropWhile isBlank
        if lenient && (left.isEmpty || left.head? == some '\n') then
          foldFrom least lenient blanks breaks line (column + 1) cs
        else none
      else foldFrom least lenient blanks breaks line (column + 1) cs
    else some ⟨blanks.reverse, breaks, line, column, c :: cs⟩

/-- The blank part of a text at a place. -/
def Cursor.fold (least : Nat) (lenient : Bool) (cursor : Cursor) : Option Fold :=
  foldFrom least lenient [] 0 cursor.line cursor.column cursor.rest

/-- Whether a colon before given characters ends a text without quotes. -/
def endsKey (inFlow : Bool) (cs : List Char) : Bool :=
  atBlank cs || (inFlow && (cs.head?.map isFlow).getD false)

/-- The characters up to the next one that a word cannot have. -/
def takeWord (inFlow : Bool) : List Char → List Char
  | [] => []
  | c :: cs =>
    if isBlank c || c == '\n' || (c == ':' && endsKey inFlow cs) || (inFlow && isFlow c) then []
    else c :: takeWord inFlow cs

/-- Whether a hyphen comes next that would be a text of its own before a bracket or a comma. -/
def atLoneHyphen (inFlow : Bool) : List Char → Bool
  | '-' :: c :: _ => inFlow && isFlow c
  | _ => false

/-- The words that are left of a text without quotes. The number bounds how many there are. -/
def readWords (inFlow : Bool) (least : Nat) : Nat → Cursor → Option (List Char × Cursor)
  | 0, _ => none
  | fuel + 1, cursor => do
    let fold ← cursor.fold least true
    let next := fold.after
    let word := takeWord inFlow next.rest
    let outside := !inFlow && fold.breaks != 0 && next.column < least
    if (fold.breaks == 0 && fold.blanks.isEmpty) || next.atEnd || outside || word.isEmpty ||
        next.rest.head? == some '#' then
      return ([], cursor)
    guard (!atLoneHyphen inFlow next.rest)
    let (text, cursor) ← readWords inFlow least fuel (next.advance word.length)
    return (fold.text ++ word ++ text, cursor)

/-- The characters that a text without quotes may not begin with. -/
def indicators : List Char :=
  [',', '[', ']', '\x7b', '\x7d', '#', '&', '*', '!', '\'', '"', '%', '@', '\x60']

/-- Whether a text without quotes may begin with given characters. -/
def beginsPlain (inFlow : Bool) : List Char → Bool
  | [] => false
  | c :: cs =>
    if c = '-' ∨ c = '?' then !atBlank cs
    else if c = ':' then !endsKey inFlow cs
    else if c = '|' ∨ c = '>' then inFlow
    else !indicators.contains c

/-- A text without quotes. -/
def readPlain (inFlow : Bool) (least : Nat) (cursor : Cursor) : Option (List Char × Cursor) := do
  guard (beginsPlain inFlow cursor.rest && !atLoneHyphen inFlow cursor.rest)
  let word := takeWord inFlow cursor.rest
  let (text, after) ←
    readWords inFlow least (cursor.rest.length + 1) (cursor.advance word.length)
  return (word ++ text, after)

/-- The character that a letter after a backslash stands for. -/
def escape? : Char → Option Char
  | '0' => some '\x00'
  | 'a' => some '\x07'
  | 'b' => some '\x08'
  | 't' | '\t' => some '\t'
  | 'n' => some '\n'
  | 'v' => some '\x0b'
  | 'f' => some '\x0c'
  | 'r' => some '\r'
  | 'e' => some '\x1b'
  | ' ' => some ' '
  | '"' => some '"'
  | '/' => some '/'
  | '\\' => some '\\'
  | 'N' => some '\u0085'
  | '_' => some '\u00a0'
  | 'L' => some '\u2028'
  | 'P' => some '\u2029'
  | _ => none

/-- What the characters after a backslash stand for, and how many of them there are. -/
def readEscape : List Char → Option (Char × Nat)
  | 'x' :: a :: b :: _ => (Text.hexScalar? [a, b]).map (·, 3)
  | 'u' :: a :: b :: c :: d :: _ => (Text.hexScalar? [a, b, c, d]).map (·, 5)
  | 'U' :: a :: b :: c :: d :: e :: f :: g :: h :: _ =>
    (Text.hexScalar? [a, b, c, d, e, f, g, h]).map (·, 9)
  | c :: _ => (escape? c).map (·, 1)
  | [] => none

/-- Whether a text in quotes may go on after a blank part. -/
def Fold.staysInside (least : Nat) (fold : Fold) : Bool :=
  fold.breaks == 0 || (least ≤ fold.after.column && !fold.after.atEnd)

/-- What is left of a text in double quotes, and the place after the closing one. A backslash before
the end of a line joins the line to the next one. -/
def readDouble (least : Nat) : Nat → Cursor → Option (List Char × Cursor)
  | 0, _ => none
  | fuel + 1, cursor =>
    match cursor.rest with
    | [] => none
    | '"' :: _ => some ([], cursor.advance 1)
    | '\\' :: '\n' :: _ => do
      let fold ← (cursor.advance 1).fold least false
      guard (fold.staysInside least)
      let (text, after) ← readDouble least fuel fold.after
      return (breaksText (fold.breaks - 1) ++ text, after)
    | '\\' :: cs => do
      let (c, count) ← readEscape cs
      let (text, after) ← readDouble least fuel (cursor.advance (count + 1))
      return (c :: text, after)
    | c :: _ => do
      if isBlank c || c == '\n' then
        let fold ← cursor.fold least false
        guard (fold.staysInside least)
        let (text, after) ← readDouble least fuel fold.after
        return (fold.text ++ text, after)
      let (text, after) ← readDouble least fuel (cursor.advance 1)
      return (c :: text, after)

/-- What is left of a text in single quotes, and the place after the closing one. A quote in the
text is written twice. -/
def readSingle (least : Nat) : Nat → Cursor → Option (List Char × Cursor)
  | 0, _ => none
  | fuel + 1, cursor =>
    match cursor.rest with
    | [] => none
    | '\'' :: '\'' :: _ => do
      let (text, after) ← readSingle least fuel (cursor.advance 2)
      return ('\'' :: text, after)
    | '\'' :: _ => some ([], cursor.advance 1)
    | c :: _ => do
      if isBlank c || c == '\n' then
        let fold ← cursor.fold least false
        guard (fold.staysInside least)
        let (text, after) ← readSingle least fuel fold.after
        return (fold.text ++ text, after)
      let (text, after) ← readSingle least fuel (cursor.advance 1)
      return (c :: text, after)

/-- What becomes of the ends of lines at the end of a block. -/
inductive Chomping where
  /-- There are none. -/
  | strip
  /-- There is one. -/
  | clip
  /-- All stay. -/
  | keep
  deriving DecidableEq

/-- What the first line of a block says. -/
structure BlockHeader where
  /-- Whether lines are joined. -/
  folded : Bool
  chomping : Chomping := .clip
  /-- By how many columns more than what it is in the block is indented. -/
  increment : Option Nat := none

/-- The header with what a sign or a digit says, if it is one and has not been given before. -/
def BlockHeader.add? (header : BlockHeader) (c : Char) : Option BlockHeader :=
  if c = '+' ∨ c = '-' then
    if header.chomping = .clip then
      some { header with chomping := if c = '+' then .keep else .strip }
    else none
  else if c.isDigit && c != '0' && header.increment.isNone then
    some { header with increment := some (c.toNat - '0'.toNat) }
  else none

/-- The header with what a run of characters says. -/
def BlockHeader.addAll? (header : BlockHeader) (cs : List Char) : Option BlockHeader :=
  cs.foldlM BlockHeader.add? header

/-- How many spaces a line begins with. -/
def leadingSpaces (line : List Char) : Nat := (line.takeWhile (· == ' ')).length

/-- Whether a line has nothing but spaces. -/
def isEmptyLine (line : List Char) : Bool := line.all (· == ' ')

/-- The column at which the lines of a block begin, if it is not said: where the first line does
that is not empty, or further right if an empty line before it is longer. -/
def blockIndent (least : Nat) : List (List Char) → Nat
  | [] => least
  | line :: lines =>
    let indent := max least (leadingSpaces line)
    if isEmptyLine line then blockIndent indent lines else indent

/-- The lines of a block that begin at a column, without the indentation: an empty line is `none`.
What is left of the last line of a text, if nothing is, is no line. -/
def blockLines (indent : Nat) : List (List Char) → List (Option (List Char))
  | [] => []
  | line :: lines =>
    if isEmptyLine line && leadingSpaces line ≤ indent then
      if lines.isEmpty then [] else none :: blockLines indent lines
    else if leadingSpaces line < indent || (Cursor.mk 0 0 line).atEnd then []
    else some (line.drop indent) :: blockLines indent lines

/-- Whether a line begins with a blank. -/
def beginsBlank (line : List Char) : Bool := (line.head?.map isBlank).getD false

/-- The text of the lines that follow one with a given content and some empty ones, and what of ends
of lines stays at the end. -/
def joinLines (header : BlockHeader) (before : List Char) (empty : Nat) :
    List (Option (List Char)) → List Char
  | [] =>
    match header.chomping with
    | .strip => []
    | .clip => breaksText 1
    | .keep => breaksText (empty + 1)
  | none :: lines => joinLines header before (empty + 1) lines
  | some line :: lines =>
    let joined := header.folded && !beginsBlank before && !beginsBlank line
    let breaks :=
      if joined then if empty = 0 then [' '] else breaksText empty else breaksText (empty + 1)
    breaks ++ line ++ joinLines header line 0 lines

/-- The text of a block, after some empty lines. It is said whether the document ends after it. -/
def blockText (header : BlockHeader) (ends : Bool) (empty : Nat) :
    List (Option (List Char)) → List Char
  | [] =>
    match header.chomping with
    | .strip => []
    | .clip => if ends then breaksText 1 else []
    | .keep => breaksText (if ends then max empty 1 else empty)
  | none :: lines => blockText header ends (empty + 1) lines
  | some line :: lines => breaksText empty ++ line ++ joinLines header line 0 lines

/-- The lines of a text. What is left after the last end of a line comes last. -/
def splitLines : List Char → List (List Char)
  | [] => [[]]
  | c :: cs =>
    if c = '\n' then [] :: splitLines cs
    else
      match splitLines cs with
      | [] => [[c]]
      | line :: lines => (c :: line) :: lines

/-- A block of lines, from the character that begins its header. The first line that is not empty
may not be indented less than the block, unless it is outside. -/
def readBlock (least : Nat) (cursor : Cursor) : Option (List Char × Cursor) := do
  let header : BlockHeader := { folded := cursor.rest.head? == some '>' }
  let signs := (cursor.rest.drop 1).takeWhile fun c => c == '+' || c == '-' || c.isDigit
  let header ← header.addAll? signs
  let headed := cursor.advance (signs.length + 1)
  let left := headed.rest.dropWhile isBlank
  guard (left.isEmpty || left.head? == some '\n' || (left.head? == some '#' && atBlank headed.rest))
  match headed.rest.dropWhile (· != '\n') with
  | [] => return ([], { headed with column := headed.column + headed.rest.length, rest := [] })
  | _ :: body =>
    guard (body.head? != some '\t')
    let lines := splitLines body
    let indent :=
      match header.increment with
      | some increment => least - 1 + increment
      | none => blockIndent least lines
    let first := (lines.dropWhile isEmptyLine).headD []
    guard (first.isEmpty || !(leadingSpaces first < indent && least ≤ leadingSpaces first))
    let content := blockLines indent lines
    let after := lines.drop content.length
    let ends := after.all isEmptyLine
    let rest := ['\n'].intercalate after
    return (blockText header ends 0 content, ⟨headed.line + 1 + content.length, 0, rest⟩)

end Subschema.Yaml
