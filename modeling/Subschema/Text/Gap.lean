namespace Subschema.Text

/-- What gaps look like in a notation: blanks, comments of a line, and comments between two marks.
-/
structure GapStyle where
  isBlank : Char → Bool
  /-- Whether a character ends a comment of a line. -/
  endsLine : Char → Bool
  /-- Whether comments between marks may stand in one another. -/
  nests : Bool

/-- Where in a gap a reader is. -/
inductive GapPart where
  | blanks
  | line
  /-- In a comment between marks, which stands in so many others. -/
  | block (depth : Nat)

/-- The characters after a gap. There are none if a comment is not closed, or if a slash begins no
comment. -/
def skipGap (style : GapStyle) : GapPart → List Char → Option (List Char)
  | .blanks, [] | .line, [] => some []
  | .block _, [] => none
  | .blanks, '/' :: '/' :: cs => skipGap style .line cs
  | .blanks, '/' :: '*' :: cs => skipGap style (.block 0) cs
  | .blanks, '/' :: _ => none
  | .blanks, c :: cs => if style.isBlank c then skipGap style .blanks cs else some (c :: cs)
  | .line, c :: cs => skipGap style (if style.endsLine c then .blanks else .line) cs
  | .block 0, '*' :: '/' :: cs => skipGap style .blanks cs
  | .block (depth + 1), '*' :: '/' :: cs => skipGap style (.block depth) cs
  | .block depth, '/' :: '*' :: cs =>
    if style.nests then skipGap style (.block (depth + 1)) cs
    else skipGap style (.block depth) ('*' :: cs)
  | .block depth, _ :: cs => skipGap style (.block depth) cs

/-- The characters after the gap that comes next, if any. -/
def GapStyle.skip (style : GapStyle) (cs : List Char) : Option (List Char) :=
  skipGap style .blanks cs

end Subschema.Text
