import Subschema.Decimal.Binary64
import Subschema.Toml.Moment

namespace Subschema

/-- How a table was made, which decides what may be added to it later. -/
inductive TableForm where
  /-- It stands before the last dot of a header. -/
  | implied
  /-- It stands before the last dot of an assignment. -/
  | dotted
  /-- It has a header of its own, or is the document. -/
  | headed
  /-- It stands in braces. -/
  | braced
  deriving DecidableEq

/-- A value of a TOML document. -/
inductive Toml where
  | text (s : String)
  | integer (n : Int)
  | real (x : Binary64)
  | boolean (b : Bool)
  | moment (m : Moment)
  | array (items : List Toml)
  /-- Tables whose headers have double brackets. -/
  | series (tables : List Toml)
  | table (form : TableForm) (entries : List (String × Toml))

namespace Toml

/-- A document with nothing in it. -/
def empty : Toml := .table .headed []

/-- Entries with another value for a key that is there. -/
def replaceEntry (key : String) (value : Toml) (entries : List (String × Toml)) :
    List (String × Toml) :=
  entries.map fun entry => if entry.1 = key then (key, value) else entry

/-- Whether the path of a header or an assignment may go through a table. A dotted key may not reach
into a table that has a header, and nothing may reach into braces. -/
def mayEnter (way form : TableForm) : Bool :=
  match way, form with
  | _, .braced => false
  | .dotted, .headed => false
  | _, _ => true

/-- Changes the table that a path leads to. Tables that are missing on the way are made; of a
series, the last table is meant. -/
def alterAt (way : TableForm) (change : Toml → Option Toml) : List String → Toml → Option Toml
  | [], node => change node
  | key :: path, .table form entries =>
    match entries.lookup key with
    | none =>
      (alterAt way change path (.table way [])).map fun node =>
        .table form (entries ++ [(key, node)])
    | some (.table inner members) =>
      if mayEnter way inner then
        (alterAt way change path (.table inner members)).map fun node =>
          .table form (replaceEntry key node entries)
      else none
    | some (.series tables) =>
      match tables.getLast? with
      | some last =>
        (alterAt way change path last).map fun node =>
          .table form (replaceEntry key (.series (tables.dropLast ++ [node])) entries)
      | none => none
    | some _ => none
  | _ :: _, _ => none

/-- A table with one more entry, whose key must be new. The table must be one that dotted keys made
exactly if the key of the entry is itself dotted. -/
def addEntry (isDotted : Bool) (key : String) (value : Toml) : Toml → Option Toml
  | .table form entries =>
    if (form = .dotted) = (isDotted = true) ∧ entries.lookup key = none then
      some (.table form (entries ++ [(key, value)]))
    else none
  | _ => none

/-- Opens the table of a header: a new one, or one that other headers have implied. -/
def addTable (key : String) : Toml → Option Toml
  | .table form entries =>
    match entries.lookup key with
    | none => some (.table form (entries ++ [(key, .table .headed [])]))
    | some (.table .implied members) =>
      some (.table form (replaceEntry key (.table .headed members) entries))
    | some _ => none
  | _ => none

/-- Opens one more table of a series. -/
def addToSeries (key : String) : Toml → Option Toml
  | .table form entries =>
    match entries.lookup key with
    | none => some (.table form (entries ++ [(key, .series [.table .headed []])]))
    | some (.series tables) =>
      some (.table form (replaceEntry key (.series (tables ++ [.table .headed []])) entries))
    | some _ => none
  | _ => none

/-- Gives a value to a key, the dotted part of which comes first. -/
def assign (path : List String) (key : String) (value : Toml) : Toml → Option Toml :=
  alterAt .dotted (addEntry (!path.isEmpty) key value) path

/-- Gives a value to a key below a header. -/
def assignBelow (header path : List String) (key : String) (value : Toml) : Toml → Option Toml :=
  alterAt .implied (assign path key value) header

end Toml

end Subschema
