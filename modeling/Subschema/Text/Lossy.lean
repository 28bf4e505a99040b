namespace Subschema.Text

/-- A character whose first bytes have been read: how many bytes are missing, the range of the next
one, and the bits so far. -/
structure Partial where
  missing : Nat
  low : Nat
  high : Nat
  bits : Nat
  deriving DecidableEq, Repr

/-- What a byte between characters does: it is a character, it starts one, or it is neither. -/
def firstByte (b : Nat) : List (Option Char) × Option Partial :=
  if b < 0x80 then ([some (Char.ofNat b)], none)
  else if 0xC2 ≤ b ∧ b ≤ 0xDF then ([], some ⟨1, 0x80, 0xBF, b - 0xC0⟩)
  else if b = 0xE0 then ([], some ⟨2, 0xA0, 0xBF, 0⟩)
  else if b = 0xED then ([], some ⟨2, 0x80, 0x9F, 0xD⟩)
  else if 0xE1 ≤ b ∧ b ≤ 0xEF then ([], some ⟨2, 0x80, 0xBF, b - 0xE0⟩)
  else if b = 0xF0 then ([], some ⟨3, 0x90, 0xBF, 0⟩)
  else if 0xF1 ≤ b ∧ b ≤ 0xF3 then ([], some ⟨3, 0x80, 0xBF, b - 0xF0⟩)
  else if b = 0xF4 then ([], some ⟨3, 0x80, 0x8F, 4⟩)
  else ([none], none)

/-- The characters that bytes spell, `none` for each stretch that spells none. -/
def scanBytes : Option Partial → List UInt8 → List (Option Char)
  | none, [] => []
  | some _, [] => [none]
  | none, byte :: bytes =>
    let (out, next) := firstByte byte.toNat
    out ++ scanBytes next bytes
  | some p, byte :: bytes =>
    let b := byte.toNat
    if p.low ≤ b ∧ b ≤ p.high then
      let bits := p.bits * 0x40 + (b - 0x80)
      if p.missing ≤ 1 then some (Char.ofNat bits) :: scanBytes none bytes
      else scanBytes (some ⟨p.missing - 1, 0x80, 0xBF, bits⟩) bytes
    else
      let (out, next) := firstByte b
      none :: out ++ scanBytes next bytes

/-- The text of bytes, with replacement characters where they are not UTF-8. Each longest run of
bytes that starts a character and does not finish it is shown as one, and so is each byte that
cannot start one. -/
def ofBytesLossy (bytes : List UInt8) : String :=
  String.ofList ((scanBytes none bytes).map fun c => c.getD '\uFFFD')

end Subschema.Text
