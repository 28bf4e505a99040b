import Subschema.Proofs.Fingerprint
import Subschema.Text.Lossy

namespace Subschema.Text

/-- The bytes of a text are those of its characters, one character after the other. -/
theorem toList_toUTF8_eq_flatMap (s : String) :
    s.toUTF8.toList = s.toList.flatMap String.utf8EncodeChar := by
  have bytes : s.toByteArray = (s.toList.flatMap String.utf8EncodeChar).toByteArray := by
    conv => lhs; rw [← String.ofList_toList (s := s)]
    rfl
  rw [toList_toUTF8, bytes, List.toList_data_toByteArray]

/-- The first byte of a character says how many follow, and in which range the next one is. -/
theorem firstByte_two {b : Nat} (low : 0xC2 ≤ b) (high : b ≤ 0xDF) :
    firstByte b = ([], some ⟨1, 0x80, 0xBF, b - 0xC0⟩) := by
  unfold firstByte
  rw [if_neg (by omega), if_pos ⟨low, high⟩]

theorem firstByte_three {b : Nat} (low : 0xE0 ≤ b) (high : b ≤ 0xEF) :
    firstByte b = ([], some ⟨2, if b = 0xE0 then 0xA0 else 0x80, if b = 0xED then 0x9F else 0xBF,
      b - 0xE0⟩) := by
  unfold firstByte
  rw [if_neg (by omega), if_neg (by omega)]
  by_cases first : b = 0xE0
  · subst first
    rfl
  by_cases surrogates : b = 0xED
  · subst surrogates
    rfl
  · rw [if_neg first, if_neg surrogates, if_pos ⟨by omega, high⟩, if_neg first, if_neg surrogates]

theorem firstByte_four {b : Nat} (low : 0xF0 ≤ b) (high : b ≤ 0xF4) :
    firstByte b = ([], some ⟨3, if b = 0xF0 then 0x90 else 0x80, if b = 0xF4 then 0x8F else 0xBF,
      b - 0xF0⟩) := by
  unfold firstByte
  rw [if_neg (by omega), if_neg (by omega), if_neg (by omega), if_neg (by omega), if_neg (by omega)]
  by_cases first : b = 0xF0
  · subst first
    rfl
  by_cases last : b = 0xF4
  · subst last
    rfl
  · rw [if_neg first, if_pos ⟨by omega, by omega⟩, if_neg first, if_neg last]

theorem toNat_ofNat_byte {n : Nat} (small : n < 256) : (UInt8.ofNat n).toNat = n := by
  simp [Nat.mod_eq_of_lt small]

section Scan

variable {low high bits n : Nat} (rest : List UInt8)

theorem scanBytes_first {out : List (Option Char)} {next : Option Partial} (small : n < 256)
    (first : firstByte n = (out, next)) :
    scanBytes none (UInt8.ofNat n :: rest) = out ++ scanBytes next rest := by
  rw [scanBytes, toNat_ofNat_byte small, first]

theorem scanBytes_last (small : n < 256) (above : low ≤ n) (below : n ≤ high) :
    scanBytes (some ⟨1, low, high, bits⟩) (UInt8.ofNat n :: rest) =
      some (Char.ofNat (bits * 0x40 + (n - 0x80))) :: scanBytes none rest := by
  rw [scanBytes, toNat_ofNat_byte small, if_pos ⟨above, below⟩]
  rfl

theorem scanBytes_next {missing : Nat} (small : n < 256) (above : low ≤ n) (below : n ≤ high) :
    scanBytes (some ⟨missing + 2, low, high, bits⟩) (UInt8.ofNat n :: rest) =
      scanBytes (some ⟨missing + 1, 0x80, 0xBF, bits * 0x40 + (n - 0x80)⟩) rest := by
  rw [scanBytes, toNat_ofNat_byte small, if_pos ⟨above, below⟩]
  simp

/-- The bytes of a character are told apart by the first of them. -/
theorem scanBytes_utf8EncodeChar (c : Char) :
    scanBytes none (String.utf8EncodeChar c ++ rest) = some c :: scanBytes none rest := by
  have valid : c.toNat < 0xD800 ∨ 0xDFFF < c.toNat ∧ c.toNat < 0x110000 := c.valid
  have value : c.val.toNat = c.toNat := rfl
  have whole {m : Nat} (same : m = c.toNat) : Char.ofNat m = c := by rw [same, Char.ofNat_toNat]
  unfold String.utf8EncodeChar
  simp only [value]
  -- The character takes one byte, two, three or four, by the size of its code point.
  split
  · have one : firstByte c.toNat = ([some (Char.ofNat c.toNat)], none) := by
      unfold firstByte
      rw [if_pos (by omega)]
    rw [List.singleton_append, scanBytes_first _ (by omega) one, whole rfl]
    rfl
  split
  · rw [List.cons_append, scanBytes_first _ (by omega) (firstByte_two (by omega) (by omega)),
      List.singleton_append, scanBytes_last _ (by omega) (by omega) (by omega), whole (by omega)]
    rfl
  split
  · rw [List.cons_append, scanBytes_first _ (by omega) (firstByte_three (by omega) (by omega)),
      List.cons_append, scanBytes_next _ (by omega) (by split <;> omega) (by split <;> omega),
      List.singleton_append, scanBytes_last _ (by omega) (by omega) (by omega), whole (by omega)]
    rfl
  · rw [List.cons_append, scanBytes_first _ (by omega) (firstByte_four (by omega) (by omega)),
      List.cons_append, scanBytes_next _ (by omega) (by split <;> omega) (by split <;> omega),
      List.cons_append, scanBytes_next _ (by omega) (by omega) (by omega),
      List.singleton_append, scanBytes_last _ (by omega) (by omega) (by omega), whole (by omega)]
    rfl

end Scan

/-- Of the bytes of a text none is replaced. -/
theorem ofBytesLossy_toUTF8 (s : String) : ofBytesLossy s.toUTF8.toList = s := by
  have scanned (cs : List Char) :
      scanBytes none (cs.flatMap String.utf8EncodeChar) = cs.map some := by
    induction cs with
    | nil => rfl
    | cons c cs ih => rw [List.flatMap_cons, scanBytes_utf8EncodeChar, ih, List.map_cons]
  have kept : ((fun c : Option Char => c.getD '\uFFFD') ∘ some) = id := rfl
  rw [ofBytesLossy, toList_toUTF8_eq_flatMap, scanned, List.map_map, kept, List.map_id,
    String.ofList_toList]

end Subschema.Text
