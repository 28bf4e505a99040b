import Subschema.Text.Hex

namespace Subschema.Toml

/-- The four ways to quote a text. -/
inductive QuoteStyle where
  | basic
  | literal
  | basicLines
  | literalLines
  deriving DecidableEq

/-- Whether a character can only be written as an escape: the control characters but tab and line
feed. -/
def needsEscape (c : Char) : Bool :=
  (c.toNat < 0x20 || c.toNat == 0x7F) && c != '\t' && c != '\n'

/-- Whether a character occurs three times in a row. -/
def hasTriple (quote : Char) : List Char → Bool
  | c :: d :: e :: cs => (c == quote && d == quote && e == quote) || hasTriple quote (d :: e :: cs)
  | _ => false

/-- The way to quote a text: the first that needs no escape but for tabs. Where every way needs one,
a basic string. -/
def styleOf (cs : List Char) : QuoteStyle :=
  let verbatim := !cs.any needsEscape
  if verbatim && !cs.contains '\\' && !cs.contains '"' && !cs.contains '\n' then .basic
  else if verbatim && !cs.contains '\'' && !cs.contains '\n' then .literal
  else if verbatim && !cs.contains '\\' && !hasTriple '"' cs then .basicLines
  else if verbatim && !hasTriple '\'' cs then .literalLines
  else if cs.contains '\n' then .basicLines
  else .basic

/-- A character of a basic string, escaped where it has to be. -/
def writeChar (c : Char) (rest : List Char) : List Char :=
  if c = '"' then '\\' :: '"' :: rest
  else if c = '\\' then '\\' :: '\\' :: rest
  else if c = '\n' then '\\' :: 'n' :: rest
  else if c = '\t' then '\\' :: 't' :: rest
  else if c = '\r' then '\\' :: 'r' :: rest
  else if c = '\x08' then '\\' :: 'b' :: rest
  else if c = '\x0c' then '\\' :: 'f' :: rest
  else if needsEscape c then
    '\\' :: 'u' :: '0' :: '0' :: Text.capitalHexDigit (c.toNat / 16) ::
      Text.capitalHexDigit (c.toNat % 16) :: rest
  else c :: rest

/-- The characters of a basic string over lines, after a number of quotes in a row. Line feeds are
written as they are, and so are quotes but the third in a row. -/
def writeLines : Nat → List Char → List Char → List Char
  | _, [], rest => rest
  | quotes, c :: cs, rest =>
    if c = '"' then
      if quotes = 2 then '\\' :: '"' :: writeLines 0 cs rest
      else '"' :: writeLines (quotes + 1) cs rest
    else if c = '\n' then '\n' :: writeLines 0 cs rest
    else writeChar c (writeLines 0 cs rest)

/-- The line break after the opening quotes of a text that has line breaks itself. -/
def leadBreak (cs rest : List Char) : List Char :=
  if cs.contains '\n' then '\n' :: rest else rest

/-- A text in quotes, in front of given characters. -/
def writeText (s : String) (rest : List Char) : List Char :=
  let cs := s.toList
  match styleOf cs with
  | .basic => '"' :: cs.foldr writeChar ('"' :: rest)
  | .literal => '\'' :: (cs ++ '\'' :: rest)
  | .basicLines =>
    '"' :: '"' :: '"' :: leadBreak cs (writeLines 0 cs ('"' :: '"' :: '"' :: rest))
  | .literalLines =>
    '\'' :: '\'' :: '\'' :: leadBreak cs (cs ++ '\'' :: '\'' :: '\'' :: rest)

/-- Items of a list, one a line, each with a comma after it. -/
def writeItems : List String → List Char → List Char
  | [], rest => rest
  | s :: texts, rest =>
    ' ' :: ' ' :: ' ' :: ' ' :: writeText s (',' :: '\n' :: writeItems texts rest)

/-- A list of texts: on one line up to one text, otherwise over lines. -/
def writeTexts (texts : List String) (rest : List Char) : List Char :=
  match texts with
  | [] => '[' :: ']' :: rest
  | [s] => '[' :: writeText s (']' :: rest)
  | texts => '[' :: '\n' :: writeItems texts (']' :: rest)

/-- A truth value. -/
def writeBool (b : Bool) (rest : List Char) : List Char :=
  (if b then "true" else "false").toList ++ rest

/-- A header on a line of its own. -/
def writeHeader (name : String) (rest : List Char) : List Char :=
  '[' :: (name.toList ++ ']' :: '\n' :: rest)

/-- An assignment on a line of its own, given the writer of its value. -/
def writeAssignment (key : String) (value : List Char → List Char) (rest : List Char) :
    List Char :=
  key.toList ++ ' ' :: '=' :: ' ' :: value ('\n' :: rest)

end Subschema.Toml
