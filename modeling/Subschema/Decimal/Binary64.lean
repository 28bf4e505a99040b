import Subschema.Decimal.Numeral
import Subschema.Text.Blank

namespace Subschema

/-- A floating-point number of 64 bits, as an exact value. -/
inductive Binary64 where
  | nan
  | infinite (negative : Bool)
  /-- The number `mantissa * 2 ^ exponent`, with as many of 53 bits as the exponent allows, which is
  never below -1074. -/
  | finite (negative : Bool) (mantissa : Nat) (exponent : Int)
  deriving DecidableEq

namespace Binary64

/-- Whether a number is a zero of either sign. -/
def isZero : Binary64 → Bool
  | .finite _ mantissa _ => mantissa == 0
  | _ => false

/-- Whether a number has a minus sign. -/
def isNegative : Binary64 → Bool
  | .nan => false
  | .infinite negative => negative
  | .finite negative _ _ => negative

/-- The number with the other sign. -/
def negate : Binary64 → Binary64
  | .nan => .nan
  | .infinite negative => .infinite (!negative)
  | .finite negative mantissa exponent => .finite (!negative) mantissa exponent

/-- A quotient rounded to the nearest whole number, a half to the even neighbour. -/
def roundQuotient (num den : Nat) : Nat :=
  let whole := num / den
  let rest := num % den
  if 2 * rest > den ∨ (2 * rest = den ∧ whole % 2 = 1) then whole + 1 else whole

/-- A quotient of two numbers, the second times a power of a base. -/
def scaleDown (base : Nat) (exponent : Int) (num den : Nat) : Nat × Nat :=
  if exponent < 0 then (num * Nat.pow base (-exponent).toNat, den)
  else (num, den * Nat.pow base exponent.toNat)

/-- What a mantissa of 53 bits stays below. -/
def limit : Nat := 9007199254740992

/-- The exponent at which a positive quotient has 53 bits before the point. -/
def exponentOf (num den : Nat) : Int :=
  let low : Int := (num.log2 : Int) - den.log2 - 53
  let (a, b) := scaleDown 2 low num den
  if a < b * limit then low else low + 1

/-- The number nearest to a quotient. -/
def ofQuotient (negative : Bool) (num den : Nat) : Binary64 :=
  if num = 0 then .finite negative 0 (-1074)
  else
    let exponent := max (exponentOf num den) (-1074)
    let (a, b) := scaleDown 2 exponent num den
    let mantissa := roundQuotient a b
    let (mantissa, exponent) :=
      if mantissa = limit then (limit / 2, exponent + 1) else (mantissa, exponent)
    if exponent > 971 then .infinite negative else .finite negative mantissa exponent

/-- The number nearest to `digits * 10 ^ exponent`. Far outside the range the power is not worked
out. -/
def ofDecimal (negative : Bool) (digits : Nat) (exponent : Int) : Binary64 :=
  if digits = 0 then .finite negative 0 (-1074)
  else if exponent > 400 then .infinite negative
  else if exponent < -400 - (digits.log2 : Int) then .finite negative 0 (-1074)
  else
    let (num, den) := scaleDown 10 (-exponent) digits 1
    ofQuotient negative num den

/-- The exponent of a decimal number, if the characters are one. -/
def exponent? : List Char → Option Int
  | [] => some 0
  | c :: cs =>
    if c = 'e' ∨ c = 'E' then
      let (negative, digits) := splitSign cs
      (natural? digits).map (withSign negative)
    else none

/-- A decimal number without a sign: digits with a point anywhere among them or none, and perhaps an
exponent. -/
def unsigned? (negative : Bool) (cs : List Char) : Option Binary64 :=
  let whole := cs.takeWhile Char.isDigit
  let (fraction, rest) :=
    match cs.dropWhile Char.isDigit with
    | '.' :: rest => (rest.takeWhile Char.isDigit, rest.dropWhile Char.isDigit)
    | rest => ([], rest)
  if whole.isEmpty && fraction.isEmpty then none
  else
    (exponent? rest).map fun exponent =>
      ofDecimal negative (numeralValue (whole ++ fraction)) (exponent - fraction.length)

/-- Reads a decimal number, or the words for what is no finite number in any case. -/
def read? (cs : List Char) : Option Binary64 :=
  let (negative, body) := splitSign cs
  let word := String.ofList (body.map Text.asciiLower)
  if word = "nan" then some .nan
  else if word = "inf" ∨ word = "infinity" then some (.infinite negative)
  else unsigned? negative body

/-- The number of digits before the point of a positive quotient. It is zero or less for a number
below a tenth, by the number of zeros after the point. -/
def magnitude (num den : Nat) : Int :=
  let low : Int := (Nat.toDigits 10 num).length - (Nat.toDigits 10 den).length
  let (a, b) := scaleDown 10 low num den
  if a < b then low else low + 1

/-- The decimal numbers next to a quotient that are whole multiples of a power of ten, as multiples:
the nearer one first, and the greater one if both are equally near. -/
def neighbours (exponent : Int) (num den : Nat) : List Nat :=
  let (a, b) := scaleDown 10 exponent num den
  if 2 * (a % b) < b then [a / b, a / b + 1] else [a / b + 1, a / b]

/-- The decimal number of the fewest digits that reads back as a given positive number, and of those
the nearest: its digits and its exponent. Ten at a place are one at the place before. After the
quotient come how many more digits there may be and the place of the last digit. -/
def shortest (mantissa : Nat) (exponent : Int) (num den : Nat) : Nat → Int → Nat × Int
  | 0, place => ((neighbours place num den).headD 0, place)
  | more + 1, place =>
    match (neighbours place num den).find? fun digits =>
        ofDecimal false digits place == .finite false mantissa exponent with
    | some digits => if digits = 10 then (1, place + 1) else (digits, place)
    | none => shortest mantissa exponent num den more (place - 1)

/-- Digits with a power of ten, written out without an exponent. -/
def writePlain (digits : Nat) (exponent : Int) : List Char :=
  let cs := Nat.toDigits 10 digits
  if 0 ≤ exponent then cs ++ List.replicate exponent.toNat '0'
  else
    let places := (-exponent).toNat
    if places < cs.length then cs.take (cs.length - places) ++ '.' :: cs.drop (cs.length - places)
    else '0' :: '.' :: (List.replicate (places - cs.length) '0' ++ cs)

/-- The text of a positive number. -/
def writeFinite (mantissa : Nat) (exponent : Int) : List Char :=
  if mantissa = 0 then ['0']
  else
    let (num, den) := scaleDown 2 (-exponent) mantissa 1
    let (digits, place) := shortest mantissa exponent num den 16 (magnitude num den - 1)
    writePlain digits place

/-- The text of a number: never with an exponent, and a point only before digits. -/
def render : Binary64 → String
  | .nan => "NaN"
  | .infinite negative => if negative then "-inf" else "inf"
  | .finite negative mantissa exponent =>
    String.ofList (if negative then '-' :: writeFinite mantissa exponent
      else writeFinite mantissa exponent)

end Binary64

end Subschema
