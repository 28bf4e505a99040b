import Subschema.Text.Blank
import Subschema.Text.LetterCase

namespace Subschema.Text

/-- Whether the first character that is not passed over has a case. -/
def meetsCased (cs : List Char) : Bool :=
  match cs.dropWhile (fun c => inRanges ignorableRanges c.toNat) with
  | [] => false
  | c :: _ => inRanges casedRanges c.toNat

/-- Whether a sigma ends a word: a letter with case comes before it and none after it. The
characters before it are given nearest first. -/
def endsWord (before after : List Char) : Bool :=
  meetsCased before && !meetsCased after

/-- The code point of the small letter of a character above ASCII. -/
def lowerCode (n : Nat) : Nat :=
  match capitalRuns.find? (fun run => run.holds n) with
  | some run => (n + run.shift).toNat
  | none => n

/-- The small letter of a character, where what stands around it does not matter. -/
def lowerChar (c : Char) : List Char :=
  if c.toNat < 0x80 then [asciiLower c]
  else if c = '\u0130' then ['i', '\u0307']
  else [Char.ofNat (lowerCode c.toNat)]

/-- Small letters of the characters, given those before them, nearest first. -/
def lowerAfter (before : List Char) : List Char → List Char
  | [] => []
  | c :: rest =>
    (if c = 'Σ' then [if endsWord before rest then 'ς' else 'σ'] else lowerChar c) ++
      lowerAfter (c :: before) rest

/-- A text in small letters. A capital sigma is written in its final form at the end of a word. -/
def lower (s : String) : String :=
  String.ofList (lowerAfter [] s.toList)

end Subschema.Text
