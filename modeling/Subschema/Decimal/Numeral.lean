namespace Subschema

/-- Whether the characters are a decimal number in its one canonical spelling. -/
def isNumeral : List Char → Bool
  | [] => false
  | ['0'] => true
  | c :: cs => ('1' ≤ c && c ≤ '9') && cs.all Char.isDigit

/-- The number that decimal digits spell. -/
def numeralValue (digits : List Char) : Nat :=
  digits.foldl (fun n c => 10 * n + (c.toNat - '0'.toNat)) 0

/-- The number that one or more decimal digits spell, leading zeros allowed. -/
def natural? (cs : List Char) : Option Nat :=
  if !cs.isEmpty && cs.all Char.isDigit then some (numeralValue cs) else none

/-- A sign in front, if there is one: whether it is a minus, and what follows. -/
def splitSign : List Char → Bool × List Char
  | '+' :: cs => (false, cs)
  | '-' :: cs => (true, cs)
  | cs => (false, cs)

/-- A number with a sign. -/
def withSign (negative : Bool) (n : Nat) : Int :=
  if negative then -(n : Int) else n

/-- Whether a number fits into 64 bits with a sign. -/
def fitsSigned64 (n : Int) : Bool :=
  -9223372036854775808 ≤ n && n ≤ 9223372036854775807

/-- A whole number of 64 bits, with or without a sign. -/
def integer64? (cs : List Char) : Option Int :=
  let (negative, digits) := splitSign cs
  ((natural? digits).map (withSign negative)).filter fitsSigned64

/-- A count of 64 bits, with or without a plus. -/
def count64? (cs : List Char) : Option Nat :=
  (match cs with
    | '+' :: digits => natural? digits
    | digits => natural? digits).filter (· ≤ 18446744073709551615)

end Subschema
