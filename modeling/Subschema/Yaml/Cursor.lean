namespace Subschema.Yaml

/-- A place in a text: how many lines and how many characters of its line come before it, and the
characters that are left. -/
structure Cursor where
  line : Nat := 0
  column : Nat := 0
  rest : List Char

/-- A space or a tab. -/
def isBlank (c : Char) : Bool := c == ' ' || c == '\t'

/-- Whether the text ends, or its next character is a blank or ends the line. -/
def atBlank : List Char → Bool
  | [] => true
  | c :: _ => isBlank c || c == '\n'

/-- The brackets and the comma of collections in brackets. -/
def isFlow (c : Char) : Bool :=
  c == ',' || c == '[' || c == ']' || c == '\x7b' || c == '\x7d'

/-- Whether a given character comes next, and after it a blank or the end of the line. -/
def begins (c : Char) : List Char → Bool
  | d :: cs => d == c && atBlank cs
  | [] => false

namespace Cursor

/-- The place some characters further on the same line. -/
def advance (cursor : Cursor) (count : Nat) : Cursor :=
  { cursor with column := cursor.column + count, rest := cursor.rest.drop count }

/-- Whether a mark between documents comes next: three hyphens or three points that begin a line. -/
def atMark (mark : Char) (cursor : Cursor) : Bool :=
  cursor.column == 0 && [mark, mark, mark].isPrefixOf cursor.rest && atBlank (cursor.rest.drop 3)

/-- Whether the document ends. -/
def atEnd (cursor : Cursor) : Bool :=
  cursor.rest.isEmpty || cursor.atMark '-' || cursor.atMark '.'

/-- The place after the blanks that come next on the line. -/
def skipBlanks (cursor : Cursor) : Cursor :=
  cursor.advance (cursor.rest.takeWhile isBlank).length

end Cursor

/-- Where in a gap a reader is. -/
inductive GapPart where
  /-- Among blanks, and whether a comment may begin. -/
  | blanks (spaced : Bool)
  | comment
  /-- After a tab in indentation, where only a comment may be left on the line. -/
  | tabbed

/-- The place after a gap that began in a given part. Indentation takes a least number of columns on
the lines that follow, which is also said of the first one if nothing came before on it. -/
def skipGap (least : Nat) : GapPart → Bool → Nat → Nat → List Char → Option Cursor
  | _, _, line, column, [] => some ⟨line, column, []⟩
  | _, _, line, _, '\n' :: cs => skipGap least (.blanks true) true (line + 1) 0 cs
  | .comment, leading, line, column, _ :: cs => skipGap least .comment leading line (column + 1) cs
  | .tabbed, leading, line, column, c :: cs =>
    if isBlank c then skipGap least .tabbed leading line (column + 1) cs
    else if c = '#' then skipGap least .comment leading line (column + 1) cs
    else none
  | .blanks spaced, leading, line, column, c :: cs =>
    if c = '\t' ∧ leading ∧ column < least then skipGap least .tabbed leading line (column + 1) cs
    else if isBlank c then skipGap least (.blanks true) leading line (column + 1) cs
    else if c = '#' then
      if spaced then skipGap least .comment leading line (column + 1) cs else none
    else some ⟨line, column, c :: cs⟩

/-- The place after the gap that comes next, if any: blanks, comments and ends of lines. Indentation
is of spaces: a tab may stand in it only on a line with nothing else. -/
def Cursor.skip (least : Nat) (cursor : Cursor) : Option Cursor :=
  let fresh := cursor.column == 0
  skipGap least (.blanks fresh) fresh cursor.line cursor.column cursor.rest

end Subschema.Yaml
