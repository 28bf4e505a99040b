import Subschema.Text.Hex
import Subschema.Toml.Value

namespace Subschema.Toml

/-- Digits without the underscores between them. An underscore needs a digit on both sides. -/
def ungroup? (isDigit : Char → Bool) (cs : List Char) : Option (List Char) :=
  let parts := Text.splitAt '_' cs
  if parts.all fun part => !part.isEmpty && part.all isDigit then some parts.flatten else none

/-- The value of digits in a base of at most sixteen. -/
def valueInBase (base : Nat) (digits : List Char) : Nat :=
  digits.foldl (fun n c => n * base + (Text.hexDigit? c).getD 0) 0

/-- Whether a character is a digit in a base of at most sixteen. -/
def isDigitIn (base : Nat) (c : Char) : Bool :=
  (Text.hexDigit? c).any (· < base)

/-- A whole number in a base other than ten, without a sign. -/
def readInBase (base : Nat) (cs : List Char) : Option Toml :=
  ((ungroup? (isDigitIn base) cs).map fun digits => (valueInBase base digits : Int)).filter
    fitsSigned64 |>.map .integer

/-- Decimal digits without underscores, if no zero is in front of others. -/
def wholePart? (cs : List Char) : Option (List Char) :=
  (ungroup? Char.isDigit cs).filter isNumeral

/-- A whole number in base ten. -/
def readInteger (negative : Bool) (cs : List Char) : Option Toml :=
  ((wholePart? cs).map fun digits => withSign negative (numeralValue digits)).filter fitsSigned64
    |>.map .integer

/-- Whether a character comes before an exponent. -/
def isExponentMark (c : Char) : Bool := c == 'e' || c == 'E'

/-- The exponent after its mark. -/
def readExponent (cs : List Char) : Option Int :=
  let (negative, digits) := splitSign cs
  (ungroup? Char.isDigit digits).map fun digits => withSign negative (numeralValue digits)

/-- The digits before and after the point and the exponent of a number that has a point, an exponent
or both. -/
def floatParts? (cs : List Char) : Option (List Char × List Char × Int) :=
  match Text.splitAt '.' (cs.takeWhile (!isExponentMark ·)),
      cs.dropWhile (!isExponentMark ·) with
  | [whole], _ :: power => do return (← wholePart? whole, [], ← readExponent power)
  | [whole, fraction], [] => do
    return (← wholePart? whole, ← ungroup? Char.isDigit fraction, 0)
  | [whole, fraction], _ :: power => do
    return (← wholePart? whole, ← ungroup? Char.isDigit fraction, ← readExponent power)
  | _, _ => none

/-- A floating-point number. One that is too large is refused, but one that is too far below zero is
taken for the negative infinity. -/
def readFloat (negative : Bool) (cs : List Char) : Option Toml :=
  (floatParts? cs).bind fun (whole, fraction, exponent) =>
    match Binary64.ofDecimal negative (numeralValue (whole ++ fraction))
        (exponent - fraction.length) with
    | .infinite false => none
    | x => some (.real x)

/-- The value of a word. -/
def readWord (cs : List Char) : Option Toml :=
  match cs with
  | ['t', 'r', 'u', 'e'] => some (.boolean true)
  | ['f', 'a', 'l', 's', 'e'] => some (.boolean false)
  | '0' :: 'x' :: digits => readInBase 16 digits
  | '0' :: 'o' :: digits => readInBase 8 digits
  | '0' :: 'b' :: digits => readInBase 2 digits
  | cs =>
    let (negative, body) := splitSign cs
    match body with
    | ['i', 'n', 'f'] => some (.real (.infinite negative))
    | ['n', 'a', 'n'] => some (.real .nan)
    | _ => (readInteger negative body).or (readFloat negative body)

end Subschema.Toml
