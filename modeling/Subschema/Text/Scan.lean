import Subschema.Text.Hex

namespace Subschema.Text

/-- Something in front of what was read after it. A reader takes the characters that are left and
gives back what it read and the characters that are left after it. -/
def push {α : Type} (x : Option α) (rest : Option (List α × List Char)) :
    Option (List α × List Char) :=
  match x, rest with
  | some x, some (xs, rest) => some (x :: xs, rest)
  | _, _ => none

/-- What follows a given character, if it comes next. -/
def expect (c : Char) : List Char → Option (List Char)
  | [] => none
  | d :: cs => if d = c then some cs else none

/-- The character with a code point, if there is one. -/
def scalar? (n : Nat) : Option Char :=
  if n.isValidChar then some (Char.ofNat n) else none

/-- The character with a code point in hexadecimal digits. -/
def hexScalar? (digits : List Char) : Option Char :=
  (hexValue? digits).bind scalar?

end Subschema.Text
