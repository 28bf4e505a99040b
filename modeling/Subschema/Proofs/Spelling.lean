import Mathlib.Data.List.DropRight
import Subschema.Proofs.Coherent
import Subschema.Proofs.Numerals

namespace Subschema

namespace Text

/-- ASCII characters that are no blanks. -/
def Plain (c : Char) : Prop := c.toNat < 0x80 ∧ isBlank c = false

theorem toNat_asciiLower (c : Char) :
    (asciiLower c).toNat = if 65 ≤ c.toNat ∧ c.toNat ≤ 90 then c.toNat + 32 else c.toNat := by
  unfold asciiLower
  split
  · rename_i capital
    have bounds : 65 ≤ c.toNat ∧ c.toNat ≤ 90 := capital
    have valid : (c.toNat + 32).isValidChar := Or.inl (by omega)
    rw [if_pos bounds, Char.ofNat, dif_pos valid]
    rfl
  · rename_i other
    have bounds : ¬ (65 ≤ c.toNat ∧ c.toNat ≤ 90) := other
    rw [if_neg bounds]

theorem asciiLower_ascii_iff {c : Char} : (asciiLower c).toNat < 0x80 ↔ c.toNat < 0x80 := by
  rw [toNat_asciiLower]
  split <;> omega

/-- Digits and dots are not changed by making letters small. -/
theorem asciiLower_of_low {c : Char} (low : c.toNat < 65) : asciiLower c = c := by
  refine if_neg fun capital => ?_
  have high : 65 ≤ c.toNat := capital.1
  omega

theorem map_asciiLower_of_low {cs : List Char} (low : ∀ c ∈ cs, c.toNat < 65) :
    cs.map asciiLower = cs := by
  rw [List.map_congr_left fun c member => asciiLower_of_low (low c member), List.map_id']

theorem trimBlanks_of_plain {cs : List Char} (plain : ∀ c ∈ cs, Plain c) : trimBlanks cs = cs := by
  have keeps : ∀ ds : List Char, (∀ c ∈ ds, Plain c) → ds.dropWhile isBlank = ds := by
    intro ds plain
    cases ds with
    | nil => rfl
    | cons d ds => simp [(plain d List.mem_cons_self).2]
  rw [trimBlanks, keeps cs plain, keeps cs.reverse (by simpa using plain), List.reverse_reverse]

/-- What is left of a text without its first blanks still starts without one when its last blanks are
gone too. -/
theorem trimBlanks_trimBlanks (cs : List Char) : trimBlanks (trimBlanks cs) = trimBlanks cs := by
  have front : (trimBlanks cs).dropWhile isBlank = trimBlanks cs := by
    cases trimmed : trimBlanks cs with
    | nil => rfl
    | cons c rest =>
      have start : trimBlanks cs <+: cs.dropWhile isBlank := List.rdropWhile_prefix isBlank _
      rw [trimmed] at start
      obtain ⟨others, whole⟩ := start
      have first := List.head?_dropWhile_not isBlank cs
      rw [← whole] at first
      exact List.dropWhile_cons_of_neg (Bool.eq_false_iff.1 first)
  have back : (trimBlanks cs).rdropWhile isBlank = trimBlanks cs :=
    List.rdropWhile_idempotent isBlank (cs.dropWhile isBlank)
  unfold trimBlanks at front back ⊢
  rw [front]
  exact back

theorem trim_trim (s : String) : trim (trim s) = trim s := by
  rw [trim, trim, String.toList_ofList, trimBlanks_trimBlanks]

theorem lowerAfter_of_ascii {before cs : List Char} (ascii : ∀ c ∈ cs, c.toNat < 0x80) :
    lowerAfter before cs = cs.map asciiLower := by
  induction cs generalizing before with
  | nil => rfl
  | cons c cs ih =>
    obtain ⟨first, rest⟩ := List.forall_mem_cons.1 ascii
    have other : c ≠ 'Σ' := by
      rintro rfl
      exact absurd first (by decide)
    rw [lowerAfter, if_neg other, lowerChar, if_pos first, ih rest, List.map_cons]
    rfl

/-- Texts that differ in the case of ASCII letters only are either both ASCII or neither. -/
theorem ascii_of_equalsIgnoringAsciiCase {s t : String} (same : equalsIgnoringAsciiCase s t = true)
    (ascii : ∀ c ∈ s.toList, c.toNat < 0x80) : ∀ c ∈ t.toList, c.toNat < 0x80 := by
  have maps : s.toList.map asciiLower = t.toList.map asciiLower := eq_of_beq same
  intro c member
  have image : asciiLower c ∈ s.toList.map asciiLower := maps ▸ List.mem_map_of_mem member
  obtain ⟨d, origin, small⟩ := List.mem_map.1 image
  rw [← asciiLower_ascii_iff, ← small, asciiLower_ascii_iff]
  exact ascii d origin

/-- ASCII texts that differ in the case of letters only have the same small letters. -/
theorem lower_eq_of_equalsIgnoringAsciiCase {s t : String}
    (same : equalsIgnoringAsciiCase s t = true) (ascii : ∀ c ∈ s.toList, c.toNat < 0x80) :
    lower s = lower t := by
  have maps : s.toList.map asciiLower = t.toList.map asciiLower := eq_of_beq same
  rw [lower, lower, lowerAfter_of_ascii ascii,
    lowerAfter_of_ascii (ascii_of_equalsIgnoringAsciiCase same ascii), maps]

theorem mem_splitAt (separator : Char) {c : Char} {cs : List Char} (member : c ∈ cs) :
    c = separator ∨ ∃ part ∈ splitAt separator cs, c ∈ part := by
  fun_induction splitAt separator cs with
  | case1 => simp at member
  | case2 cs ih =>
    rcases List.mem_cons.1 member with same | later
    · exact Or.inl same
    · exact (ih later).imp_right fun ⟨part, among, inside⟩ =>
        ⟨part, List.mem_cons_of_mem _ among, inside⟩
  | case3 d cs other none ih => exact absurd none (splitAt_ne_nil _ _)
  | case4 d cs other first rest parts ih =>
    rcases List.mem_cons.1 member with rfl | later
    · exact Or.inr ⟨_, List.mem_cons_self, List.mem_cons_self⟩
    · rcases ih later with same | ⟨part, among, inside⟩
      · exact Or.inl same
      · rw [parts] at among
        rcases List.mem_cons.1 among with rfl | among
        · exact Or.inr ⟨_, List.mem_cons_self, List.mem_cons_of_mem _ inside⟩
        · exact Or.inr ⟨part, List.mem_cons_of_mem _ among, inside⟩

theorem plain_of_visible {c : Char} (low : 0x21 ≤ c.toNat) (high : c.toNat ≤ 0x7E) : Plain c := by
  refine ⟨by omega, ?_⟩
  simp only [isBlank, Bool.or_eq_false_iff, Bool.and_eq_false_iff, decide_eq_false_iff_not,
    beq_eq_false_iff_ne]
  omega

theorem isDigit_iff {c : Char} : c.isDigit = true ↔ 48 ≤ c.toNat ∧ c.toNat ≤ 57 :=
  Char.isDigit_iff_toNat

theorem plain_of_isDigit {c : Char} (digit : c.isDigit = true) : Plain c := by
  have bounds := isDigit_iff.1 digit
  exact plain_of_visible (by omega) (by omega)

end Text

theorem isLetter_iff {c : Char} : isLetter c = true ↔
    97 ≤ c.toNat ∧ c.toNat ≤ 122 ∨ 65 ≤ c.toNat ∧ c.toNat ≤ 90 := by
  simp only [isLetter, Bool.or_eq_true, Bool.and_eq_true, decide_eq_true_eq]
  exact Iff.rfl

theorem plain_of_isLetter {c : Char} (letter : isLetter c = true) : Text.Plain c := by
  have bounds := isLetter_iff.1 letter
  exact Text.plain_of_visible (by omega) (by omega)

/-- Names are ASCII without blanks. -/
theorem plain_of_isDescr {cs : List Char} (descr : isDescr cs = true) :
    ∀ c ∈ cs, Text.Plain c := by
  cases cs with
  | nil => simp
  | cons c cs =>
    rw [isDescr, Bool.and_eq_true, List.all_eq_true] at descr
    refine List.forall_mem_cons.2 ⟨plain_of_isLetter descr.1, fun d member => ?_⟩
    have allowed := descr.2 d member
    rw [Bool.or_eq_true, Bool.or_eq_true] at allowed
    rcases allowed with (letter | digit) | hyphen
    · exact plain_of_isLetter letter
    · exact Text.plain_of_isDigit digit
    · rw [eq_of_beq hyphen]
      exact Text.plain_of_visible (by decide) (by decide)

theorem isDigit_of_isNumeral {cs : List Char} (numeral : isNumeral cs = true) :
    ∀ c ∈ cs, c.isDigit = true := by
  cases cs with
  | nil => simp
  | cons c cs =>
    rcases isNumeral_cons.1 numeral with ⟨rfl, rfl⟩ | ⟨_, own, later⟩
    · simp
    · exact List.forall_mem_cons.2 ⟨own, later⟩

/-- An identifier is two or more numerals with dots between them. -/
theorem isNumericOid_iff_splitAt {cs : List Char} : isNumericOid cs = true ↔
    2 ≤ (Text.splitAt '.' cs).length ∧ ∀ part ∈ Text.splitAt '.' cs, isNumeral part = true := by
  rw [isNumericOid, Bool.and_eq_true, decide_eq_true_eq, List.all_eq_true]

theorem digit_or_dot_of_isNumericOid {cs : List Char} (numeric : isNumericOid cs = true) :
    ∀ c ∈ cs, c.isDigit = true ∨ c = '.' := by
  intro c member
  rcases Text.mem_splitAt '.' member with dot | ⟨part, among, inside⟩
  · exact Or.inr dot
  · exact Or.inl (isDigit_of_isNumeral ((isNumericOid_iff_splitAt.1 numeric).2 part among) c inside)

/-- Identifiers are ASCII without blanks. -/
theorem plain_of_isNumericOid {cs : List Char} (numeric : isNumericOid cs = true) :
    ∀ c ∈ cs, Text.Plain c := by
  intro c member
  rcases digit_or_dot_of_isNumericOid numeric c member with digit | rfl
  · exact Text.plain_of_isDigit digit
  · exact Text.plain_of_visible (by decide) (by decide)

theorem low_of_isNumericOid {cs : List Char} (numeric : isNumericOid cs = true) :
    ∀ c ∈ cs, c.toNat < 65 := by
  intro c member
  rcases digit_or_dot_of_isNumericOid numeric c member with digit | rfl
  · have bounds := Text.isDigit_iff.1 digit
    omega
  · decide

theorem map_asciiLower_of_isNumericOid {cs : List Char} (numeric : isNumericOid cs = true) :
    cs.map Text.asciiLower = cs :=
  Text.map_asciiLower_of_low (low_of_isNumericOid numeric)

/-- What is an identifier in small letters is one as it stands. -/
theorem eq_of_map_asciiLower_eq {cs ds : List Char} (numeric : isNumericOid cs = true)
    (same : cs = ds.map Text.asciiLower) : ds = cs := by
  have low : ∀ d ∈ ds, d.toNat < 65 := by
    intro d member
    have image := low_of_isNumericOid numeric (Text.asciiLower d) (same ▸ List.mem_map_of_mem member)
    rw [Text.toNat_asciiLower] at image
    split at image <;> omega
  rw [same, Text.map_asciiLower_of_low low]

theorem isDigit_head_of_isNumericOid {cs : List Char} (numeric : isNumericOid cs = true) :
    ∃ c rest, cs = c :: rest ∧ c.isDigit = true := by
  rw [isNumericOid_iff_splitAt] at numeric
  cases cs with
  | nil => simp [Text.splitAt] at numeric
  | cons c rest =>
    refine ⟨c, rest, rfl, ?_⟩
    have parts := numeric.2
    simp only [Text.splitAt] at parts
    split at parts
    · simp [isNumeral] at parts
    · split at parts
      · exact isDigit_of_isNumeral (parts [c] List.mem_cons_self) c List.mem_cons_self
      · exact isDigit_of_isNumeral (parts _ List.mem_cons_self) c List.mem_cons_self

/-- Names start with a letter and identifiers with a digit, so no spelling of a name is one of an
identifier. -/
theorem map_asciiLower_ne_of_isDescr {name cs : List Char} (descr : isDescr name = true)
    (numeric : isNumericOid cs = true) : name.map Text.asciiLower ≠ cs := by
  rintro rfl
  obtain ⟨c, rest, start, digit⟩ := isDigit_head_of_isNumericOid numeric
  cases name with
  | nil => simp [isDescr] at descr
  | cons d name =>
    rw [isDescr, Bool.and_eq_true] at descr
    rw [List.map_cons, List.cons.injEq] at start
    have letter := isLetter_iff.1 descr.1
    have bounds := Text.isDigit_iff.1 digit
    rw [← start.1, Text.toNat_asciiLower] at bounds
    split at bounds <;> omega

theorem Text.trim_of_plain {s : String} (plain : ∀ c ∈ s.toList, Text.Plain c) :
    Text.trim s = s := by
  rw [trim, trimBlanks_of_plain plain, String.ofList_toList]

theorem Oid.parse_text (oid : Oid) : Oid.parse oid.text = .ok oid := by
  have trimmed := Text.trim_of_plain (plain_of_isNumericOid oid.numeric)
  simp only [Oid.parse, trimmed, oid.numeric, dif_pos]

/-- Blanks around a text are no part of its key. -/
theorem nameKey_trim (s : String) : nameKey (Text.trim s) = nameKey s := by
  rw [nameKey, nameKey, Text.trim_trim]

theorem NameMap.get?_trim (names : NameMap) (s : String) : names.get? (Text.trim s) = names.get? s := by
  rw [get?, get?, nameKey_trim]

theorem Definition.hasName_trim (d : Definition) (s : String) :
    d.hasName (Text.trim s) = d.hasName s := by
  rw [hasName, hasName, Text.trim_trim]

theorem checkName_eq_ok_iff {name : String} :
    checkName name = .ok () ↔ isDescr name.toList = true := by
  unfold checkName
  split
  · simp [*]
  · simp [*]

theorem Definition.plain_of_mem_spellings {d : Definition}
    (named : ∀ name ∈ d.names, checkName name = .ok ()) :
    ∀ spelling ∈ d.spellings, ∀ c ∈ spelling.toList, Text.Plain c := by
  rw [spellings, List.forall_mem_cons]
  refine ⟨plain_of_isNumericOid d.oid.numeric, fun name member => ?_⟩
  exact plain_of_isDescr (checkName_eq_ok_iff.1 (named name member))

/-- A reference that spells the identifier or a name of a definition has the key of that spelling. -/
theorem Definition.mem_keys_of_spelling {d : Definition}
    (named : ∀ name ∈ d.names, checkName name = .ok ()) {spelling reference : String}
    (member : spelling ∈ d.spellings)
    (same : Text.equalsIgnoringAsciiCase spelling (Text.trim reference) = true) :
    nameKey reference ∈ d.keys := by
  have plain := d.plain_of_mem_spellings named spelling member
  refine List.mem_map.2 ⟨spelling, member, ?_⟩
  rw [nameKey, nameKey, Text.trim_of_plain plain]
  exact Text.lower_eq_of_equalsIgnoringAsciiCase same fun c inside => (plain c inside).1

theorem Definition.oid_mem_keys (d : Definition) : nameKey d.oid.text ∈ d.keys :=
  List.mem_map_of_mem List.mem_cons_self

/-- A definition that a reference names has the key of the reference. -/
theorem Definition.mem_keys_of_hasName {d : Definition}
    (named : ∀ name ∈ d.names, checkName name = .ok ()) {reference : String}
    (own : d.hasName reference = true) : nameKey reference ∈ d.keys := by
  rw [hasName, Bool.or_eq_true, beq_iff_eq, List.any_eq_true] at own
  rcases own with same | ⟨name, member, same⟩
  · rw [← nameKey_trim, ← same]
    exact d.oid_mem_keys
  · exact mem_keys_of_spelling named (List.mem_cons_of_mem _ member) same

/-- An identifier is its own key. -/
theorem nameKey_of_isNumericOid {s : String} (numeric : isNumericOid s.toList = true) :
    nameKey s = s := by
  have plain := plain_of_isNumericOid numeric
  rw [nameKey, Text.trim_of_plain plain, Text.lower,
    Text.lowerAfter_of_ascii fun c member => (plain c member).1,
    map_asciiLower_of_isNumericOid numeric, String.ofList_toList]

namespace Definition

/-- Of the keys of a definition only that of its identifier is one. -/
theorem mem_keys_of_isNumericOid {d : Definition}
    (named : ∀ name ∈ d.names, checkName name = .ok ()) {s : String}
    (numeric : isNumericOid s.toList = true) : s ∈ d.keys ↔ s = d.oid.text := by
  rw [keys, spellings, List.map_cons, List.mem_cons, nameKey_of_isNumericOid d.oid.numeric]
  refine or_iff_left fun among => ?_
  obtain ⟨name, member, same⟩ := List.mem_map.1 among
  have descr := checkName_eq_ok_iff.1 (named name member)
  have plain := plain_of_isDescr descr
  rw [nameKey, Text.trim_of_plain plain, Text.lower,
    Text.lowerAfter_of_ascii fun c member => (plain c member).1] at same
  refine map_asciiLower_ne_of_isDescr descr numeric ?_
  rw [← same, String.toList_ofList]

/-- An identifier names only the definition that has it. -/
theorem hasName_of_isNumericOid {d : Definition}
    (named : ∀ name ∈ d.names, checkName name = .ok ()) {s : String}
    (numeric : isNumericOid s.toList = true) : d.hasName s = true ↔ s = d.oid.text := by
  rw [hasName, Text.trim_of_plain (plain_of_isNumericOid numeric), Bool.or_eq_true, beq_iff_eq,
    eq_comm (a := s)]
  refine or_iff_left fun among => ?_
  obtain ⟨name, member, same⟩ := List.any_eq_true.1 among
  have maps : name.toList.map Text.asciiLower = s.toList.map Text.asciiLower := eq_of_beq same
  rw [map_asciiLower_of_isNumericOid numeric] at maps
  exact map_asciiLower_ne_of_isDescr (checkName_eq_ok_iff.1 (named name member)) numeric maps

end Definition

end Subschema
