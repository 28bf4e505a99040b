import Subschema.Decimal.Numeral
import Subschema.Error
import Subschema.Text.Blank

namespace Subschema

/-- Whether the characters are a numeric object identifier (RFC 4512, section 1.4): two or more
decimal numbers joined by dots, none with a leading zero, so that an identifier has one spelling
only. -/
def isNumericOid (cs : List Char) : Bool :=
  2 ≤ (Text.splitAt '.' cs).length && (Text.splitAt '.' cs).all isNumeral

/-- Numeric object identifier, kept as its text. -/
structure Oid where
  text : String
  numeric : isNumericOid text.toList = true
  deriving DecidableEq

/-- Reads an identifier, blanks around it allowed. -/
def Oid.parse (s : String) : Except Error Oid :=
  if h : isNumericOid (Text.trim s).toList = true then .ok ⟨Text.trim s, h⟩
  else .error (.invalidOid (Text.trim s))

/-- The numbers of an identifier, from the root arc down. -/
def Oid.arcs (oid : Oid) : List Nat :=
  (Text.splitAt '.' oid.text.toList).map numeralValue

/-- How many numbers an identifier has, as its text is cut at the dots. -/
def Oid.arcCount (oid : Oid) : Nat :=
  (Text.split '.' oid.text).length

/-- The spelling of a list of arcs. -/
def Oid.spelling (arcs : List Nat) : String :=
  ".".intercalate (arcs.map toString)

/-- Identifiers are ordered by their text, code point by code point, not by their numbers. -/
instance : Ord Oid where
  compare a b := compare a.text b.text

/-- The identifiers in order. -/
def Oid.sort (oids : List Oid) : List Oid :=
  oids.mergeSort fun a b => (compare a b).isLE

end Subschema
