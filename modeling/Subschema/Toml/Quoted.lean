import Subschema.Text.Scan

namespace Subschema.Toml

open Text (push hexScalar?)

/-- Whether a character stands for itself in comments and strings: all but control characters, and
of these the tab. -/
def isPlain (c : Char) : Bool :=
  c == '\t' || (0x20 ≤ c.toNat && c.toNat != 0x7F)

/-- A space or a tab. -/
def isBlank (c : Char) : Bool := c == ' ' || c == '\t'

/-- What follows a line break, if one comes next. -/
def afterBreak? : List Char → Option (List Char)
  | '\n' :: cs => some cs
  | '\r' :: '\n' :: cs => some cs
  | _ => none

/-- The character that a one-letter escape stands for. -/
def escape? : Char → Option Char
  | 'b' => some '\x08'
  | 't' => some '\t'
  | 'n' => some '\n'
  | 'f' => some '\x0c'
  | 'r' => some '\r'
  | '"' => some '"'
  | '\\' => some '\\'
  | _ => none

/-- A basic string on one line, and what follows its closing quote. -/
def readBasic : List Char → Option (List Char × List Char)
  | [] => none
  | '"' :: cs => some ([], cs)
  | '\\' :: 'u' :: a :: b :: c :: d :: cs => push (hexScalar? [a, b, c, d]) (readBasic cs)
  | '\\' :: 'U' :: a :: b :: c :: d :: e :: f :: g :: h :: cs =>
    push (hexScalar? [a, b, c, d, e, f, g, h]) (readBasic cs)
  | '\\' :: c :: cs => push (escape? c) (readBasic cs)
  | c :: cs => if isPlain c then push (some c) (readBasic cs) else none

/-- A literal string on one line, and what follows its closing quote. -/
def readLiteral : List Char → Option (List Char × List Char)
  | [] => none
  | '\'' :: cs => some ([], cs)
  | c :: cs => if isPlain c then push (some c) (readLiteral cs) else none

/-- Whether a backslash at the end of a line is joining lines. -/
inductive Joining where
  | no
  /-- After the backslash, where only blanks may come before the line ends. -/
  | pending
  /-- After the end of the line. -/
  | yes
  deriving DecidableEq

/-- A basic string over lines, and what follows its closing quotes. Up to two quotes may stand right
before the closing ones. -/
def readBasicLines (joining : Joining) : List Char → Option (List Char × List Char)
  | [] => none
  | '\n' :: cs =>
    if joining = .no then push (some '\n') (readBasicLines .no cs) else readBasicLines .yes cs
  | '\r' :: '\n' :: cs =>
    if joining = .no then push (some '\n') (readBasicLines .no cs) else readBasicLines .yes cs
  | ' ' :: cs =>
    if joining = .no then push (some ' ') (readBasicLines .no cs) else readBasicLines joining cs
  | '\t' :: cs =>
    if joining = .no then push (some '\t') (readBasicLines .no cs) else readBasicLines joining cs
  | '"' :: '"' :: '"' :: '"' :: '"' :: cs =>
    if joining = .pending then none else some (['"', '"'], cs)
  | '"' :: '"' :: '"' :: '"' :: cs => if joining = .pending then none else some (['"'], cs)
  | '"' :: '"' :: '"' :: cs => if joining = .pending then none else some ([], cs)
  | '\\' :: 'u' :: a :: b :: c :: d :: cs =>
    if joining = .pending then none else push (hexScalar? [a, b, c, d]) (readBasicLines .no cs)
  | '\\' :: 'U' :: a :: b :: c :: d :: e :: f :: g :: h :: cs =>
    if joining = .pending then none
    else push (hexScalar? [a, b, c, d, e, f, g, h]) (readBasicLines .no cs)
  | '\\' :: '\n' :: cs => if joining = .pending then none else readBasicLines .yes cs
  | '\\' :: '\r' :: '\n' :: cs => if joining = .pending then none else readBasicLines .yes cs
  | '\\' :: ' ' :: cs => if joining = .pending then none else readBasicLines .pending cs
  | '\\' :: '\t' :: cs => if joining = .pending then none else readBasicLines .pending cs
  | '\\' :: c :: cs =>
    if joining = .pending then none else push (escape? c) (readBasicLines .no cs)
  | c :: cs =>
    if joining = .pending then none
    else if isPlain c then push (some c) (readBasicLines .no cs)
    else none

/-- A literal string over lines, and what follows its closing quotes. -/
def readLiteralLines : List Char → Option (List Char × List Char)
  | [] => none
  | '\'' :: '\'' :: '\'' :: '\'' :: '\'' :: cs => some (['\'', '\''], cs)
  | '\'' :: '\'' :: '\'' :: '\'' :: cs => some (['\''], cs)
  | '\'' :: '\'' :: '\'' :: cs => some ([], cs)
  | '\n' :: cs => push (some '\n') (readLiteralLines cs)
  | '\r' :: '\n' :: cs => push (some '\n') (readLiteralLines cs)
  | c :: cs => if isPlain c then push (some c) (readLiteralLines cs) else none

/-- The characters without a line break at the start. -/
def dropBreak (cs : List Char) : List Char := (afterBreak? cs).getD cs

/-- A quoted text of any kind, and what follows it. A line break after the opening quotes of a text
over lines does not count. -/
def readQuoted : List Char → Option (List Char × List Char)
  | '"' :: '"' :: '"' :: cs => readBasicLines .no (dropBreak cs)
  | '"' :: cs => readBasic cs
  | '\'' :: '\'' :: '\'' :: cs => readLiteralLines (dropBreak cs)
  | '\'' :: cs => readLiteral cs
  | _ => none

end Subschema.Toml
