import Subschema.Decimal.Binary64

namespace Subschema

namespace Binary64

/-- The product of two numbers. -/
def times : Binary64 → Binary64 → Binary64
  | .finite s m e, .finite t n f =>
    let (num, den) := scaleDown 2 (-(e + f)) (m * n) 1
    ofQuotient (s != t) num den
  | .nan, _ | _, .nan => .nan
  | .infinite s, y => if y.isZero then .nan else .infinite (s != y.isNegative)
  | x, .infinite t => if x.isZero then .nan else .infinite (x.isNegative != t)

/-- The quotient of two numbers. -/
def dividedBy : Binary64 → Binary64 → Binary64
  | .finite s m e, .finite t n f =>
    if n = 0 then if m = 0 then .nan else .infinite (s != t)
    else
      let (num, den) := scaleDown 2 (f - e) m n
      ofQuotient (s != t) num den
  | .nan, _ | _, .nan => .nan
  | .infinite _, .infinite _ => .nan
  | .infinite s, y => .infinite (s != y.isNegative)
  | x, .infinite t => .finite (x.isNegative != t) 0 (-1074)

end Binary64

namespace Decimal

/-- The greatest number of 64 bits. -/
def greatestCount : Nat := 18446744073709551615

/-- The number that digits go on with from another one, up to the first digit with which it would
not fit into 64 bits, and how many digits are left. -/
def takeDigits (n : Nat) : List Char → Nat × Nat
  | [] => (n, 0)
  | c :: cs =>
    let next := n * 10 + (c.toNat - '0'.toNat)
    if next > greatestCount then (n, (c :: cs).length) else takeDigits next cs

/-- The greatest power of ten that is a number of 64 bits. -/
def greatestPower : Nat := 308

/-- A number times a power of ten, unless it is too large. Far below one it takes several steps, of
which the first number says how many there may be. -/
def scale? : Nat → Binary64 → Int → Option Binary64
  | 0, x, _ => some x
  | more + 1, x, exponent =>
    if exponent.natAbs ≤ greatestPower then
      let power := Binary64.ofDecimal false 1 exponent.natAbs
      if exponent < 0 then some (x.dividedBy power)
      else
        match x.times power with
        | .infinite _ => none
        | y => some y
    else if x.isZero then some x
    else if exponent < 0 then
      scale? more (x.dividedBy (Binary64.ofDecimal false 1 greatestPower)) (exponent + greatestPower)
    else none

/-- The number with digits before and after the point and an exponent, unless it is too large. It is
as many digits as 64 bits hold, scaled by one power of ten: for short numbers the nearest one, for
others perhaps a neighbour of it. -/
def scaled? (negative : Bool) (whole fraction : List Char) (exponent : Int) : Option Binary64 :=
  let (n, skipped) := takeDigits 0 whole
  let (n, left) := takeDigits n fraction
  let shift := exponent + skipped - (fraction.length - left)
  (scale? 4 (Binary64.ofQuotient false n 1) shift).map fun x => if negative then x.negate else x

end Decimal

end Subschema
