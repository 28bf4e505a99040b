import Subschema.Error
import Subschema.Text.LowerCase

namespace Subschema

/-- ASCII letters. -/
def isLetter (c : Char) : Bool :=
  ('a' ≤ c && c ≤ 'z') || ('A' ≤ c && c ≤ 'Z')

/-- Whether the characters form a name (RFC 4512 `descr`): a letter, then letters, digits and
hyphens. -/
def isDescr : List Char → Bool
  | [] => false
  | c :: cs => isLetter c && cs.all fun d => isLetter d || d.isDigit || d == '-'

/-- Refuses what is not a name. -/
def checkName (name : String) : Except Error Unit :=
  if isDescr name.toList then .ok () else .error (.invalidName name)

/-- The key of a name or identifier: without blanks at the ends, in small letters. Two spellings
mean the same thing exactly when their keys are equal. -/
def nameKey (name : String) : String :=
  Text.lower (Text.trim name)

end Subschema
