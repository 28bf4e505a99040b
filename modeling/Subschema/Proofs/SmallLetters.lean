import Subschema.Proofs.Spelling

namespace Subschema.Text

/-- The one character above ASCII whose small letter is ASCII. -/
def kelvinSign : Char := '\u212A'

/-- No other run of capitals leads below 0x80 or to something that is no character. -/
theorem capitalRuns_high : ∀ run ∈ capitalRuns,
    run.first = 0x212A ∧ run.last = 0x212A ∨
      0x80 ≤ run.first + run.shift ∧ (run.last + run.shift < 0xD800 ∨
        0xDFFF < run.first + run.shift ∧ run.last + run.shift < 0x110000) := by
  decide +kernel

/-- What is no ASCII has no ASCII letter for a small one. The exception is KELVIN SIGN: its small
letter is that of the letter K. -/
theorem lowerCode_high {n : Nat} (valid : n.isValidChar) (high : 0x80 ≤ n) (other : n ≠ 0x212A) :
    (lowerCode n).isValidChar ∧ 0x80 ≤ lowerCode n := by
  unfold lowerCode
  split
  · rename_i run found
    have holds := List.find?_some found
    simp only [CapitalRun.holds, Bool.and_eq_true, decide_eq_true_eq] at holds
    rcases capitalRuns_high run (List.mem_of_find?_eq_some found) with kelvin | bounds
    · omega
    · refine ⟨?_, by omega⟩
      rcases bounds.2 with below | above
      · exact Or.inl (by omega)
      · exact Or.inr (by omega)
  · exact ⟨valid, high⟩

theorem toNat_ofNat {n : Nat} (valid : n.isValidChar) : (Char.ofNat n).toNat = n := by
  rw [Char.ofNat, dif_pos valid]
  rfl

/-- A character above ASCII does not become ASCII. CAPITAL I WITH DOT ABOVE becomes a letter and a mark
that is not. -/
theorem exists_high_mem_lowerChar {c : Char} (high : 0x80 ≤ c.toNat) (other : c ≠ kelvinSign) :
    ∃ small ∈ lowerChar c, 0x80 ≤ small.toNat := by
  unfold lowerChar
  rw [if_neg (by omega)]
  split
  · exact ⟨'\u0307', by simp, by decide⟩
  · have code : c.toNat ≠ 0x212A := fun same => other (Char.toNat_inj.1 same)
    have valid : c.toNat.isValidChar := c.valid
    obtain ⟨still, small⟩ := lowerCode_high valid high code
    exact ⟨_, List.mem_singleton_self _, by rwa [toNat_ofNat still]⟩

/-- Where the small letters of a text are ASCII the text is ASCII as well. -/
theorem ascii_of_lowerAfter {before cs : List Char} (other : kelvinSign ∉ cs)
    (small : ∀ c ∈ lowerAfter before cs, c.toNat < 0x80) : ∀ c ∈ cs, c.toNat < 0x80 := by
  induction cs generalizing before with
  | nil => simp
  | cons c cs ih =>
    rw [List.mem_cons, not_or] at other
    rw [lowerAfter, List.forall_mem_append] at small
    refine List.forall_mem_cons.2 ⟨?_, ih other.2 small.2⟩
    by_contra high
    have first := small.1
    split at first
    · split at first <;> simp at first
    · obtain ⟨d, member, above⟩ := exists_high_mem_lowerChar (not_lt.1 high) (Ne.symm other.1)
      exact absurd (first d member) (not_lt.2 above)

/-- What has the same small letters as an ASCII text differs from it in the case of letters only. -/
theorem equalsIgnoringAsciiCase_of_lower_eq {s t : String} (ascii : ∀ c ∈ s.toList, c.toNat < 0x80)
    (other : kelvinSign ∉ t.toList) (same : lower s = lower t) :
    equalsIgnoringAsciiCase s t = true := by
  have small : lowerAfter [] s.toList = lowerAfter [] t.toList := String.ofList_inj.1 same
  rw [lowerAfter_of_ascii ascii] at small
  have both : ∀ c ∈ t.toList, c.toNat < 0x80 := by
    refine @ascii_of_lowerAfter [] _ other ?_
    rw [← small, List.forall_mem_map]
    exact fun c member => asciiLower_ascii_iff.2 (ascii c member)
  rw [lowerAfter_of_ascii both] at small
  exact beq_iff_eq.2 small

theorem mem_lowerAfter {before cs : List Char} {c small : Char} (member : c ∈ cs) (other : c ≠ 'Σ')
    (inside : small ∈ lowerChar c) : small ∈ lowerAfter before cs := by
  induction cs generalizing before with
  | nil => simp at member
  | cons first rest ih =>
    rw [lowerAfter, List.mem_append]
    rcases List.mem_cons.1 member with rfl | later
    · rw [if_neg other]
      exact Or.inl inside
    · exact Or.inr (ih later)

/-- Small letters make no identifier of what is none: whatever is not ASCII leaves a character that
identifiers do not have, KELVIN SIGN the letter k. -/
theorem lower_eq_of_isNumericOid {s : String} (numeric : isNumericOid (lower s).toList = true) :
    lower s = s := by
  have small : (lower s).toList = lowerAfter [] s.toList := String.toList_ofList
  have low : ∀ c ∈ lowerAfter [] s.toList, c.toNat < 65 := small ▸ low_of_isNumericOid numeric
  have other : kelvinSign ∉ s.toList := by
    intro inside
    have letter := low 'k' (mem_lowerAfter inside (by decide) (by decide +kernel))
    exact absurd letter (by decide)
  have ascii := ascii_of_lowerAfter other fun c member => (low c member).trans (by decide)
  rw [lowerAfter_of_ascii ascii] at small
  exact String.toList_inj.1 (eq_of_map_asciiLower_eq numeric small).symm

/-- Trimming takes nothing but blanks away. -/
theorem mem_trimBlanks_iff {c : Char} (visible : isBlank c = false) {cs : List Char} :
    c ∈ trimBlanks cs ↔ c ∈ cs := by
  have keeps : ∀ ds : List Char, c ∈ ds.dropWhile isBlank ↔ c ∈ ds := by
    intro ds
    refine ⟨fun member => (List.dropWhile_sublist isBlank).mem member, fun member => ?_⟩
    rw [← List.takeWhile_append_dropWhile (p := isBlank) (l := ds), List.mem_append] at member
    refine member.resolve_left fun dropped => ?_
    rw [List.mem_takeWhile_imp dropped] at visible
    simp at visible
  rw [trimBlanks, List.mem_reverse, keeps, List.mem_reverse, keeps]

theorem mem_trim_iff {c : Char} (visible : isBlank c = false) {s : String} :
    c ∈ (trim s).toList ↔ c ∈ s.toList := by
  rw [trim, String.toList_ofList, mem_trimBlanks_iff visible]

end Subschema.Text
