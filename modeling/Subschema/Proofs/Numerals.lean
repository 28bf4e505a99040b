import Mathlib.Data.List.Basic
import Subschema.Decimal.Numeral

namespace Subschema

/-- By induction on the number: its first digit is the one that dividing by ten comes to last. -/
theorem exists_toDigits {n : Nat} (positive : 0 < n) :
    ∃ c cs, Nat.toDigits 10 n = c :: cs ∧ c ≠ '0' := by
  induction n using Nat.strongRecOn with
  | ind n ih =>
    by_cases small : n < 10
    · have nonzero : ∀ n : Fin 10, 0 < n.val → n.val.digitChar ≠ '0' := by decide
      exact ⟨_, [], Nat.toDigits_of_lt_base small, nonzero ⟨n, small⟩ positive⟩
    · obtain ⟨c, cs, digits, nonzero⟩ := ih (n / 10) (by omega) (by omega)
      refine ⟨c, cs ++ [(n % 10).digitChar], ?_, nonzero⟩
      rw [Nat.toDigits_of_base_le (by decide) (by omega), digits, List.cons_append]

theorem isNumeral_cons {c : Char} {cs : List Char} : isNumeral (c :: cs) = true ↔
    c = '0' ∧ cs = [] ∨ c ≠ '0' ∧ c.isDigit = true ∧ ∀ d ∈ cs, d.isDigit = true := by
  have first : ('1' ≤ c ∧ c ≤ '9') ↔ c ≠ '0' ∧ c.isDigit = true := by
    rw [Char.isDigit_iff_toNat, ne_eq, ← Char.toNat_inj]
    have low : '1' ≤ c ↔ 49 ≤ c.toNat := Iff.rfl
    have high : c ≤ '9' ↔ c.toNat ≤ 57 := Iff.rfl
    rw [low, high]
    change _ ↔ ¬ c.toNat = 48 ∧ 48 ≤ c.toNat ∧ c.toNat ≤ 57
    omega
  by_cases zero : c = '0' ∧ cs = []
  · obtain ⟨rfl, rfl⟩ := zero
    simp [isNumeral]
  · rw [isNumeral]
    · simp only [zero, false_or, Bool.and_eq_true, decide_eq_true_eq, List.all_eq_true, first, and_assoc]
    · exact fun same none => zero ⟨same, none⟩

theorem numeralValue_eq (digits : List Char) : numeralValue digits = Nat.ofDigitChars 10 digits 0 :=
  Nat.ofDigitChars_eq_foldl.symm

theorem isNumeral_toDigits (n : Nat) : isNumeral (Nat.toDigits 10 n) = true := by
  rcases Nat.eq_zero_or_pos n with rfl | positive
  · rfl
  · obtain ⟨c, cs, digits, nonzero⟩ := exists_toDigits positive
    have decimal : ∀ d ∈ c :: cs, d.isDigit = true :=
      fun d member => Nat.isDigit_of_mem_toDigits (by decide) (by decide) (digits ▸ member)
    rw [digits, isNumeral_cons]
    exact Or.inr ⟨nonzero, List.forall_mem_cons.1 decimal⟩

/-- A number as it is written is worth the number, however large it is. -/
theorem numeralValue_toDigits (n : Nat) : numeralValue (Nat.toDigits 10 n) = n := by
  rw [numeralValue_eq, Nat.ofDigitChars_ten_toDigits]

theorem digitChar_of_isDigit {c : Char} (digit : c.isDigit = true) :
    c.toNat - '0'.toNat < 10 ∧ (c.toNat - '0'.toNat).digitChar = c := by
  have bounds : 48 ≤ c.toNat ∧ c.toNat ≤ 57 := Char.isDigit_iff_toNat.1 digit
  have small : c.toNat - 48 < 10 := by omega
  refine ⟨small, Char.toNat_inj.1 ?_⟩
  change (c.toNat - 48).digitChar.toNat = c.toNat
  rw [Nat.toNat_digitChar_of_lt_ten small]
  omega

/-- By induction on the digits: each one comes after those of a number that is not zero, and so is the last
digit of the number that they make together. -/
theorem toDigits_ofDigitChars {digits : List Char} (decimal : ∀ c ∈ digits, c.isDigit = true) {n : Nat}
    (positive : 0 < n) : Nat.toDigits 10 (Nat.ofDigitChars 10 digits n) = Nat.toDigits 10 n ++ digits := by
  induction digits generalizing n with
  | nil => rw [Nat.ofDigitChars_nil, List.append_nil]
  | cons c digits ih =>
    obtain ⟨own, later⟩ := List.forall_mem_cons.1 decimal
    obtain ⟨small, char⟩ := digitChar_of_isDigit own
    have next := Nat.toDigits_append_toDigits (b := 10) (by decide) positive small
    rw [Nat.toDigits_of_lt_base small, char] at next
    rw [Nat.ofDigitChars_cons, ih later (by omega), ← next, List.append_assoc, List.singleton_append]

/-- A numeral is its value as it is written. -/
theorem toDigits_numeralValue {cs : List Char} (numeral : isNumeral cs = true) :
    Nat.toDigits 10 (numeralValue cs) = cs := by
  rw [numeralValue_eq]
  cases cs with
  | nil => simp [isNumeral] at numeral
  | cons c cs =>
    rcases isNumeral_cons.1 numeral with ⟨rfl, rfl⟩ | ⟨nonzero, own, later⟩
    · rfl
    · obtain ⟨small, char⟩ := digitChar_of_isDigit own
      have positive : 0 < c.toNat - '0'.toNat := by
        refine Nat.pos_of_ne_zero fun zero => nonzero ?_
        rw [← char, zero]
        rfl
      rw [Nat.ofDigitChars_cons, Nat.mul_zero, Nat.zero_add, toDigits_ofDigitChars later positive,
        Nat.toDigits_of_lt_base small, char, List.singleton_append]

end Subschema
