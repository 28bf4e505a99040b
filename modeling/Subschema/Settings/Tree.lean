import Subschema.Decimal.Binary64
import Subschema.Text.LowerCase

namespace Subschema

/-- A value that a source of settings gives, in a tree of named values, before it is known what it
sets. -/
inductive Setting where
  /-- A value that is left open. -/
  | nothing
  | boolean (b : Bool)
  | integer (n : Int)
  | real (x : Binary64)
  | text (s : String)
  | list (items : List Setting)
  | table (entries : List (String × Setting))

namespace Setting

/-- The entries of a table; none for anything else. -/
def entries : Setting → List (String × Setting)
  | .table entries => entries
  | _ => []

/-- The items of a list; none for anything else. -/
def items : Setting → List Setting
  | .list items => items
  | _ => []

/-- Entries with a value for a key, in place of the one that was there. -/
def setEntry (entries : List (String × Setting)) (key : String) (value : Setting) :
    List (String × Setting) :=
  if (entries.lookup key).isSome then
    entries.map fun entry => if entry.1 = key then (key, value) else entry
  else entries ++ [(key, value)]

/-- Entries with one more in front, unless one of them has its key. -/
def consEntry (key : String) (value : Setting) (entries : List (String × Setting)) :
    List (String × Setting) :=
  if (entries.lookup key).isSome then entries else (key, value) :: entries

mutual

/-- Lays a value over what entries have for a key. An empty table changes nothing that is there. -/
def put (entries : List (String × Setting)) (key : String) :
    Setting → List (String × Setting)
  | .table [] =>
    setEntry entries (Text.lower key) ((entries.lookup (Text.lower key)).getD (.table []))
  | .table (member :: members) =>
    let below := ((entries.lookup (Text.lower key)).getD (.table [])).entries
    setEntry entries (Text.lower key)
      (.table (putAll (put below member.1 member.2) members))
  | value => setEntry entries (Text.lower key) value

/-- Lays values over what entries have for their keys. -/
def putAll (entries : List (String × Setting)) :
    List (String × Setting) → List (String × Setting)
  | [] => entries
  | (key, value) :: members => putAll (put entries key value) members

end

/-- A step into a tree: to a key of a table, or to a place in a list. -/
inductive Step where
  | key (name : String)
  /-- Places count from zero, and negative ones back from the end. -/
  | place (index : Int)
  deriving DecidableEq

/-- A list that has a given place, and where that is from the front. Open values are put at the end,
or for a negative place in front, until it is there. -/
def makePlace (items : List Setting) (index : Int) : List Setting × Nat :=
  let position := if index < 0 then index + items.length else index
  if position < 0 then (List.replicate (-position).toNat .nothing ++ items, 0)
  else (items ++ List.replicate (position.toNat + 1 - items.length) .nothing, position.toNat)

/-- A list with a change at a place. -/
def changeAt (items : List Setting) (index : Int) (change : Setting → Setting) : List Setting :=
  let (items, position) := makePlace items index
  items.modify position change

/-- A tree with a change where steps lead. What is no table or no list on the way becomes one. -/
def changeBelow (change : Setting → Setting) : List Step → Setting → Setting
  | [], node => change node
  | .key name :: steps, node =>
    let name := Text.lower name
    .table (setEntry node.entries name
      (changeBelow change steps ((node.entries.lookup name).getD .nothing)))
  | .place index :: steps, node => .list (changeAt node.items index (changeBelow change steps))

/-- Lays a value over what is one step into a tree. -/
def layAt (value : Setting) : Step → Setting → Setting
  | .key name, node => .table (put node.entries name value)
  | .place index, node => .list (changeAt node.items index fun _ => value)

/-- Lays a value over what is at the end of a path. -/
def layBelow (value : Setting) : List Step → Setting → Setting
  | [], node => node
  | [step], node => layAt value step node
  | step :: steps, node => changeBelow (layBelow value steps) [step] node

/-- Whether a character may stand in a key that is part of a path. -/
def isPathChar (c : Char) : Bool :=
  c.isAlphanum || c == ' ' || c == '_' || c == '-'

/-- Whether a character may stand around a number in brackets. -/
def isPathBlank (c : Char) : Bool := c == ' ' || c == '\t'

/-- A place in a list, as it stands in brackets. -/
def placeOf? (cs : List Char) : Option Int :=
  let body := ((cs.dropWhile isPathBlank).reverse.dropWhile isPathBlank).reverse
  if body.head? = some '+' then none else integer64? body

/-- The steps that are spelled after a key: a point and a key, or a place in brackets. The number
bounds how many there are. -/
def stepsOf? : Nat → List Char → Option (List Step)
  | _, [] => some []
  | 0, _ => none
  | fuel + 1, '.' :: cs =>
    let name := cs.takeWhile isPathChar
    if name.isEmpty then none
    else (stepsOf? fuel (cs.dropWhile isPathChar)).map (.key (String.ofList name) :: ·)
  | fuel + 1, '[' :: cs => do
    let index ← placeOf? (cs.takeWhile (· != ']'))
    match cs.dropWhile (· != ']') with
    | ']' :: rest => (stepsOf? fuel rest).map (.place index :: ·)
    | _ => none
  | _ + 1, _ => none

/-- The path that a key at the top stands for, if it spells one; otherwise the key itself. -/
def pathOf (key : String) : List Step :=
  let cs := key.toList
  let name := cs.takeWhile isPathChar
  match stepsOf? cs.length (cs.dropWhile isPathChar) with
  | some steps => if name.isEmpty then [.key key] else .key (String.ofList name) :: steps
  | none => [.key key]

/-- Lays all that a source gives over what there is: tables are joined key by key, anything else is
replaced. Keys do not tell capitals from small letters. A key at the top may be a path into the
tree. -/
def overlay (entries source : List (String × Setting)) : List (String × Setting) :=
  (source.foldl (fun tree (key, value) => layBelow value (pathOf key) tree) (table entries)).entries

end Setting

end Subschema
