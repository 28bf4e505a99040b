import Subschema.Yaml.Scalar
import Subschema.Yaml.Value

namespace Subschema.Yaml

/-- A document that is being read: the place, the values that have anchors, and what handles of tags
stand for. Each reader is bounded by a number that the length of the document is large enough for.
-/
structure Reader where
  cursor : Cursor
  anchors : List (String × Yaml) := []
  handles : List (String × String) := []

/-- What reads a part of a document. -/
abbrev Read (α : Type) := StateT Reader Option α

namespace Reader

/-- The place. -/
def place : Read Cursor := return (← get).cursor

/-- Goes on at another place. -/
def goTo (cursor : Cursor) : Read Unit := modify fun reader => { reader with cursor }

/-- Goes on some characters further on the line. -/
def advance (count : Nat) : Read Unit := do goTo ((← place).advance count)

/-- Goes on after the gap that comes next. -/
def skip (least : Nat) : Read Unit := do goTo (← (← place).skip least)

/-- Goes on after the gap that comes next between brackets, where a document may not end and lines
have to be indented. -/
def skipInside (least : Nat) : Read Unit := do
  skip least
  let cursor ← place
  guard (!cursor.atEnd && least ≤ cursor.column)

/-- Reads a text. -/
def text (read : Cursor → Option (List Char × Cursor)) : Read String := do
  let (cs, cursor) ← read (← place)
  goTo cursor
  return String.ofList cs

end Reader

open Reader

/-- The part of tags that says that they are standard ones. -/
def standardHandle : String := "tag:yaml.org,2002:"

/-- What tags say about a value. -/
inductive Tag where
  /-- It is of a standard kind. -/
  | standard (kind : String)
  /-- It is of some other kind. -/
  | other

/-- What stands before a value. -/
structure Properties where
  anchor : Option String := none
  tag : Option Tag := none

/-- Whether nothing stands before a value. -/
def Properties.isEmpty (properties : Properties) : Bool :=
  properties.anchor.isNone && properties.tag.isNone

/-- Properties of one value that stand apart. It may not have two of a kind. -/
def Properties.join? (a b : Properties) : Option Properties :=
  if (a.anchor.isSome && b.anchor.isSome) || (a.tag.isSome && b.tag.isSome) then none
  else some ⟨a.anchor.or b.anchor, a.tag.or b.tag⟩

/-- What the characters of a tag after its first exclamation mark say: a handle ends with another
one, and has to stand for something. -/
def tagOf? (handles : List (String × String)) (cs : List Char) : Option Tag :=
  let name := cs.takeWhile fun c => c.isAlphanum || c == '-' || c == '_'
  match cs.drop name.length with
  | '!' :: kind =>
    let handle := String.ofList ('!' :: (name ++ ['!']))
    let meaning? := handles.lookup handle <|> (if name.isEmpty then some standardHandle else none)
    if kind.isEmpty then none
    else
      meaning?.map fun meaning =>
        if meaning = standardHandle then .standard (String.ofList kind) else .other
  | _ => some .other

/-- Whether an anchor or a tag may have a character. -/
def isNameChar (c : Char) : Bool := !isBlank c && c != '\n' && !isFlow c

/-- The name at the place, and goes on after it. -/
def readName : Read (List Char) := do
  let name := (← place).rest.takeWhile isNameChar
  advance name.length
  return name

/-- A tag in angle brackets, after the first exclamation mark: it is of no standard kind. -/
def readVerbatimTag : Read Tag := do
  let name := (← place).rest.takeWhile fun c => c != '>' && c != '\n'
  advance name.length
  guard ((← place).rest.head? == some '>')
  advance 1
  guard (atBlank (← place).rest)
  return .other

/-- One property at the place, if one comes next. -/
def readProperty : Read Properties := do
  match (← place).rest with
  | '&' :: _ =>
    advance 1
    let name ← readName
    guard (!name.isEmpty)
    return { anchor := some (String.ofList name) }
  | '!' :: '<' :: _ =>
    advance 1
    return { tag := some (← readVerbatimTag) }
  | '!' :: _ =>
    advance 1
    return { tag := some (← tagOf? (← get).handles (← readName)) }
  | _ => return {}

/-- The properties at the place, of which there are at most two, and the gaps after them. Those on a
later line are left. -/
def readProperties (least : Nat) : Read Properties := do
  let line := (← place).line
  let first ← readProperty
  if first.isEmpty then return first
  skip least
  if (← place).line ≠ line then return first
  let second ← readProperty
  if second.isEmpty then return first
  skip least
  first.join? second

/-- A value that was read, as far as it does not depend on a tag. -/
inductive Part where
  /-- A text without quotes. -/
  | plain (s : String)
  /-- A text in a block. -/
  | block (s : String)
  /-- A value after which a colon may follow at once. -/
  | closed (value : Yaml)
  /-- A value that stands for itself. -/
  | repeated (value : Yaml)

/-- The value that a part is with a tag. Only texts without quotes depend on it. -/
def Part.value (part : Part) (tag : Option Tag) : Yaml :=
  match part, tag with
  | .plain s, none => .scalar (.ofPlain s)
  | .plain s, some (.standard kind) => .scalar (.ofTagged kind s)
  | .plain s, some .other => .scalar (.text s)
  | .block s, _ => .scalar (.text s)
  | .closed value, _ | .repeated value, _ => value

/-- The value with an anchor, if it has one. -/
def named (anchor : Option String) (value : Yaml) : Read Yaml := do
  match anchor with
  | some name =>
    modify fun reader => { reader with anchors := (name, value) :: reader.anchors }
    return value
  | none => return value

/-- The value that a part with properties is. A value that stands for another one has none. -/
def finish (properties : Properties) (part : Part) : Read Yaml := do
  match part with
  | .repeated value =>
    guard properties.isEmpty
    return value
  | part => named properties.anchor (part.value properties.tag)

/-- The key that a value is. -/
def keyOf? : Yaml → Option Scalar
  | .scalar key => some key
  | _ => none

/-- Entries with one more in front. No key may be given twice. -/
def consEntry? (key : Scalar) (value : Yaml) (entries : List (Scalar × Yaml)) :
    Option (List (Scalar × Yaml)) :=
  if (entries.lookup key).isSome then none else some ((key, value) :: entries)

/-- The value that a name stands for. -/
def readAlias : Read Yaml := do
  advance 1
  let name ← readName
  (← get).anchors.lookup (String.ofList name)

/-- Goes on at the colon after a key that begins on a given line and column, if there is one. A key
is on one line and not too long. -/
def atKeyColon (line column : Nat) : Read Bool := do
  let cursor := (← place).skipBlanks
  if begins ':' cursor.rest then
    guard (cursor.line == line && cursor.column ≤ column + 1024)
    goTo cursor
    return true
  return false

/-- Goes on after the colon of a key and the gap after it. Tabs alone do not divide a key from a
word after it. -/
def passColon (least : Nat) : Read Unit := do
  advance 1
  let blanks := (← place).rest.takeWhile isBlank
  let next := ((← place).rest.drop blanks.length).headD ' '
  guard (blanks.isEmpty || blanks.contains ' ' || !(next.isAlphanum || next == '-' || next == '_'))
  skip least

/-- Goes on after the hyphen of an item and the gap after it. A tab does not divide two hyphens. -/
def passHyphen (least : Nat) : Read Unit := do
  advance 1
  let blanks := (← place).rest.takeWhile isBlank
  guard (!(blanks.contains '\t' && begins '-' ((← place).rest.drop blanks.length)))
  skip least

/-- Whether a colon between brackets comes next that divides a key and a value. After a value that
is closed, anything may follow it. -/
def dividesHere (part : Part) (line : Nat) (cursor : Cursor) : Bool :=
  match cursor.rest, part with
  | ':' :: cs, .closed _ => endsKey true cs || cursor.line == line
  | ':' :: cs, _ => endsKey true cs
  | _, _ => false

/-- Whether an item or an entry between brackets ends. -/
def endsItem (cursor : Cursor) : Bool :=
  match cursor.rest with
  | c :: _ => c == ',' || c == ']' || c == '\x7d'
  | [] => true

mutual

/-- A value without properties that is no collection of lines, at the place. -/
def readPart (inFlow : Bool) (least : Nat) : Nat → Read Part
  | 0 => failure
  | fuel + 1 => do
    let bound := (← place).rest.length + 1
    match (← place).rest with
    | '"' :: _ =>
      advance 1
      return .closed (.scalar (.text (← text (readDouble least bound))))
    | '\'' :: _ =>
      advance 1
      return .closed (.scalar (.text (← text (readSingle least bound))))
    | '[' :: _ =>
      advance 1
      return .closed (.list (← readItems least fuel))
    | '\x7b' :: _ =>
      advance 1
      return .closed (.map (← readEntries least fuel))
    | '*' :: _ => return .repeated (← readAlias)
    | _ => return .plain (← text (readPlain inFlow least))

/-- A value between brackets with its properties, which is empty if nothing but properties comes. -/
def readInside (least : Nat) : Nat → Read (Part × Yaml)
  | 0 => failure
  | fuel + 1 => do
    let first ← readProperty
    if !first.isEmpty then skipInside least
    let second ← readProperty
    if !second.isEmpty then skipInside least
    let properties ← first.join? second
    let cursor ← place
    let part ←
      if !properties.isEmpty && (endsItem cursor || begins ':' cursor.rest) then pure (.plain "")
      else readPart true least fuel
    return (part, ← finish properties part)

/-- The value after a colon between brackets, which is empty if the entry ends. -/
def readInsideValue (least : Nat) : Nat → Read Yaml
  | 0 => failure
  | fuel + 1 => do
    advance 1
    skipInside least
    if endsItem (← place) then return .scalar .null
    return (← readInside least fuel).2

/-- A key and a value between brackets, and whether a colon is between them. -/
def readInsideEntry (least : Nat) : Nat → Read (Yaml × Option Yaml)
  | 0 => failure
  | fuel + 1 => do
    let marked := begins '?' (← place).rest
    if marked then
      advance 1
      skipInside least
    let start ← place
    let (part, key) ← readInside least fuel
    let line := (← place).line
    skipInside least
    if dividesHere part line (← place) then
      guard (marked || start.line == (← place).line)
      return (key, some (← readInsideValue least fuel))
    return (key, if marked then some (.scalar .null) else none)

/-- The items that are left of a list in brackets. An item with a colon is a map of one entry. -/
def readItems (least : Nat) : Nat → Read (List Yaml)
  | 0 => failure
  | fuel + 1 => do
    skipInside least
    if (← place).rest.head? == some ']' then
      advance 1
      return []
    let (key, value?) ← readInsideEntry least fuel
    let item ←
      match value? with
      | some value => do pure (.map [(← keyOf? key, value)])
      | none => pure key
    skipInside least
    match (← place).rest with
    | ',' :: _ =>
      advance 1
      return item :: (← readItems least fuel)
    | ']' :: _ =>
      advance 1
      return [item]
    | _ => failure

/-- The entries that are left of a map in braces. A key without a colon has an empty value. -/
def readEntries (least : Nat) : Nat → Read (List (Scalar × Yaml))
  | 0 => failure
  | fuel + 1 => do
    skipInside least
    if (← place).rest.head? == some '\x7d' then
      advance 1
      return []
    let (key, value?) ← readInsideEntry least fuel
    let key ← keyOf? key
    let value := value?.getD (.scalar .null)
    skipInside least
    match (← place).rest with
    | ',' :: _ =>
      advance 1
      consEntry? key value (← readEntries least fuel)
    | '\x7d' :: _ =>
      advance 1
      return [(key, value)]
    | _ => failure

end

mutual

/-- A value in indented lines, which may begin from a least column on, with properties that stand on
a line before it. It is empty if nothing comes there. It is said whether a collection of lines may
begin at the place, and whether its hyphens may stand one column further to the left. -/
def readNode (least : Nat) (opens outdented : Bool) (given : Properties) : Nat → Read Yaml
  | 0 => failure
  | fuel + 1 => do
    let start ← place
    let outside := start.column < least &&
      !(outdented && start.column + 1 == least && begins '-' start.rest)
    if start.atEnd || outside then finish given (.plain "")
    else if begins '-' start.rest then
      guard opens
      named given.anchor (.list (← readSequence start.column fuel))
    else if begins '?' start.rest then
      guard opens
      named given.anchor (.map (← readMapping start.column none fuel))
    else
      let own ← readProperties least
      let here ← place
      if !own.isEmpty && here.line != start.line then
        readNode least true outdented (← given.join? own) fuel
      else if here.rest.head? == some '|' || here.rest.head? == some '>' then
        finish (← given.join? own) (.block (← text (readBlock least)))
      else
        let part ←
          if !own.isEmpty && here.atEnd then pure (.plain "") else readPart false least fuel
        if ← atKeyColon start.line start.column then
          guard opens
          let key ← keyOf? (← finish own part)
          named given.anchor (.map (← readMapping start.column (some key) fuel))
        else finish (← given.join? own) part
termination_by structural fuel => fuel

/-- The items of a list whose hyphens stand at a column, from one of them on. -/
def readSequence (column : Nat) : Nat → Read (List Yaml)
  | 0 => failure
  | fuel + 1 => do
    passHyphen (column + 1)
    let item ← readNode (column + 1) true false {} fuel
    skip (column + 1)
    let cursor ← place
    if !cursor.atEnd && cursor.column == column && begins '-' cursor.rest then
      return item :: (← readSequence column fuel)
    return [item]
termination_by structural fuel => fuel

/-- The entries of a map whose keys stand at a column, from one of them on. The first key may have
been read up to its colon. -/
def readMapping (column : Nat) (key? : Option Scalar) : Nat → Read (List (Scalar × Yaml))
  | 0 => failure
  | fuel + 1 => do
    let start ← place
    let (key, value) ←
      match key? with
      | some key => do pure (key, ← readValue column fuel)
      | none => do
        if begins '?' start.rest then readMarkedEntry column fuel
        else
          let own ← readProperties (column + 1)
          let part ← readPart false (column + 1) fuel
          guard (← atKeyColon start.line column)
          let key ← keyOf? (← finish own part)
          pure (key, ← readValue column fuel)
    skip (column + 1)
    let cursor ← place
    if !cursor.atEnd && cursor.column == column then
      consEntry? key value (← readMapping column none fuel)
    else return [(key, value)]
termination_by structural fuel => fuel

/-- The value after a key and its colon. A collection of lines has to begin on a new one. -/
def readValue (column : Nat) : Nat → Read Yaml
  | 0 => failure
  | fuel + 1 => do
    let line := (← place).line
    passColon (column + 1)
    readNode (column + 1) ((← place).line != line) true {} fuel
termination_by structural fuel => fuel

/-- An entry of a map whose key has a mark in front. -/
def readMarkedEntry (column : Nat) : Nat → Read (Scalar × Yaml)
  | 0 => failure
  | fuel + 1 => do
    advance 1
    skip (column + 1)
    let key ← keyOf? (← readNode (column + 1) true true {} fuel)
    skip (column + 1)
    let cursor ← place
    if cursor.column == column && begins ':' cursor.rest then
      passColon (column + 1)
      return (key, ← readNode (column + 1) true true {} fuel)
    return (key, .scalar .null)
termination_by structural fuel => fuel

end

/-- The words of a line, up to a comment. -/
def wordsOf (line : List Char) : List (List Char) :=
  ((line.splitBy fun a b => isBlank a == isBlank b).filter fun word => !atBlank word).takeWhile
    fun word => word.head? != some '#'

/-- Whether a text is the number of a version: two whole numbers with a point between them. -/
def isVersion (cs : List Char) : Bool :=
  let major := cs.takeWhile Char.isDigit
  let minor := (cs.drop (major.length + 1))
  !major.isEmpty && cs[major.length]? == some '.' && !minor.isEmpty && minor.all Char.isDigit

/-- Whether a text is a handle of tags. -/
def isHandle (cs : List Char) : Bool :=
  cs == ['!'] || (cs.head? == some '!' && 2 ≤ cs.length && cs.getLast? == some '!' &&
    (cs.drop 1).dropLast.all fun c => c.isAlphanum || c == '-' || c == '_')

/-- Reads the lines before a document that begin with a percent sign, and says whether there are
any. The version may be given once, and so may each handle of tags. -/
def readDirectives (versioned : Bool) : Nat → Read Bool
  | 0 => failure
  | fuel + 1 => do
    let cursor ← place
    if cursor.column != 0 || cursor.rest.head? != some '%' then return false
    let line := (cursor.rest.drop 1).takeWhile (· != '\n')
    goTo (cursor.advance (line.length + 1))
    match wordsOf line with
    | [] => failure
    | name :: words =>
      let isVersioned := name == "YAML".toList
      if isVersioned then guard (!versioned && words.length == 1 && words.all isVersion)
      else if name == "TAG".toList then
        match words with
        | [handle, meaning] =>
          guard (isHandle handle)
          let handles := (← get).handles
          let handle := String.ofList handle
          guard ((handles.lookup handle).isNone)
          modify fun reader =>
            { reader with handles := (handle, String.ofList meaning) :: handles }
        | _ => failure
      skip 0
      let _ ← readDirectives (versioned || isVersioned) fuel
      return true

/-- Passes the points that end a document, as often as they come, and says whether there are any.
Nothing may follow them on their line. -/
def passEnds : Nat → Read Bool
  | 0 => failure
  | fuel + 1 => do
    if !(← place).atMark '.' then return false
    let line := (← place).line
    advance 3
    skip 0
    let cursor ← place
    guard (cursor.rest.isEmpty || cursor.line != line)
    let _ ← passEnds fuel
    return true

/-- The document of a text, if it has one. It may not have two. -/
def readDocument (fuel : Nat) : Read (Option Yaml) := do
  skip 0
  let _ ← passEnds fuel
  if (← place).rest.isEmpty then return none
  let directed ← readDirectives false fuel
  let headed := (← place).atMark '-'
  guard (headed || !directed)
  let line := (← place).line
  if headed then
    advance 3
    skip 0
  let value ← readNode 0 (!headed || (← place).line != line) false {} fuel
  skip 0
  let _ ← passEnds fuel
  guard ((← place).rest.isEmpty)
  return some value

/-- The characters of a text with one character for the end of a line. -/
def unifyBreaks : List Char → List Char
  | [] => []
  | '\r' :: '\n' :: cs => '\n' :: unifyBreaks cs
  | '\r' :: cs => '\n' :: unifyBreaks cs
  | c :: cs => c :: unifyBreaks cs

/-- The document that a text spells, if there is one; the inner `none` is for a text without a
document. A text ends at a NUL character. -/
def parse? (s : String) : Option (Option Yaml) :=
  let cs := unifyBreaks (s.toList.takeWhile (· != '\x00'))
  ((readDocument (4 * cs.length + 4)).run { cursor := { rest := cs } }).map (·.1)

end Subschema.Yaml
