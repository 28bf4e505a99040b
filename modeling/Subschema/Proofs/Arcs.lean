import Mathlib.Computability.RegularExpressions
import Mathlib.Data.List.DropRight
import Subschema.Proofs.Spelling

namespace Subschema

namespace Text

/-- What trimming leaves, between the blanks that it takes away. -/
theorem exists_blanks (cs : List Char) : ∃ before after,
    (∀ c ∈ before ++ after, isBlank c = true) ∧ cs = before ++ trimBlanks cs ++ after := by
  have back : trimBlanks cs ++ (cs.dropWhile isBlank).rtakeWhile isBlank = cs.dropWhile isBlank :=
    List.rdropWhile_append_rtakeWhile
  refine ⟨cs.takeWhile isBlank, (cs.dropWhile isBlank).rtakeWhile isBlank, fun c member => ?_, ?_⟩
  · rcases List.mem_append.1 member with first | last
    · exact List.mem_takeWhile_imp first
    · exact List.mem_rtakeWhile_imp last
  · rw [List.append_assoc, back, List.takeWhile_append_dropWhile]

theorem trimBlanks_append {before cs after : List Char}
    (blank : ∀ c ∈ before ++ after, isBlank c = true) (plain : ∀ c ∈ cs, Plain c) :
    trimBlanks (before ++ cs ++ after) = cs := by
  have first : ∀ c ∈ before, isBlank c = true := fun c member => blank c (List.mem_append_left _ member)
  have last : ∀ c ∈ after, isBlank c = true := fun c member => blank c (List.mem_append_right _ member)
  have gone : after.dropWhile isBlank = [] := List.dropWhile_eq_nil_iff.2 last
  have kept := trimBlanks_of_plain plain
  unfold trimBlanks at kept ⊢
  rw [List.append_assoc, List.dropWhile_append_of_pos first]
  cases cs with
  | nil => simp [gone]
  | cons c cs =>
    have visible : ¬ isBlank c = true := by simp [(plain c List.mem_cons_self).2]
    rw [List.dropWhile_cons_of_neg visible] at kept
    rw [List.cons_append, List.dropWhile_cons_of_neg visible, ← List.cons_append, List.reverse_append,
      List.dropWhile_append_of_pos (by simpa using last), kept]

theorem splitAt_eq_splitOn (separator : Char) (cs : List Char) :
    splitAt separator cs = cs.splitOn separator := by
  induction cs with
  | nil => rfl
  | cons c cs ih =>
    rw [splitAt, List.splitOn_cons_eq_if_modifyHead, ih]
    simp only [beq_iff_eq]
    split
    · rfl
    · cases parts : cs.splitOn separator with
      | nil => exact absurd parts (List.splitOn_ne_nil _ _)
      | cons part parts => rfl

theorem intercalate_splitAt (separator : Char) (cs : List Char) :
    [separator].intercalate (splitAt separator cs) = cs := by
  rw [splitAt_eq_splitOn, List.intercalate_splitOn]

/-- Parts that are joined by a separator that none of them has are found again. -/
theorem splitAt_intercalate {separator : Char} {parts : List (List Char)}
    (apart : ∀ part ∈ parts, separator ∉ part) (some : parts ≠ []) :
    splitAt separator ([separator].intercalate parts) = parts := by
  rw [splitAt_eq_splitOn, List.splitOn_intercalate separator apart some]

theorem splitAt_append_cons (separator : Char) (before after : List Char) :
    splitAt separator (before ++ separator :: after) =
      splitAt separator before ++ splitAt separator after := by
  induction before with
  | nil => simp [splitAt]
  | cons c before ih =>
    rw [List.cons_append, splitAt, splitAt, ih]
    split
    · rfl
    · cases parts : splitAt separator before with
      | nil => exact absurd parts (splitAt_ne_nil separator before)
      | cons part parts => rfl

theorem intercalate_cons (separator : Char) (part : List Char) (parts : List (List Char)) :
    [separator].intercalate (part :: parts) = part ++ (parts.map (separator :: ·)).flatten := by
  induction parts generalizing part with
  | nil => simp
  | cons next parts ih => simp [ih]

end Text

theorem dot_not_mem_of_isNumeral {cs : List Char} (numeral : isNumeral cs = true) : '.' ∉ cs :=
  fun member => absurd (isDigit_of_isNumeral numeral '.' member) (by decide)

namespace Oid

theorem toList_spelling (arcs : List Nat) :
    (spelling arcs).toList = ['.'].intercalate (arcs.map (Nat.toDigits 10)) := by
  rw [spelling, String.toList_intercalate, List.map_map]
  exact congrArg _ (List.map_congr_left fun n _ => Nat.toList_repr)

theorem splitAt_spelling {arcs : List Nat} (some : arcs ≠ []) :
    Text.splitAt '.' (spelling arcs).toList = arcs.map (Nat.toDigits 10) := by
  rw [toList_spelling]
  refine Text.splitAt_intercalate (fun part among => ?_) (by simpa using some)
  obtain ⟨n, _, rfl⟩ := List.mem_map.1 among
  exact dot_not_mem_of_isNumeral (isNumeral_toDigits n)

/-- Two or more numbers joined by dots are an identifier. -/
theorem isNumericOid_spelling {arcs : List Nat} (long : 2 ≤ arcs.length) :
    isNumericOid (spelling arcs).toList = true := by
  rw [isNumericOid_iff_splitAt, splitAt_spelling (List.ne_nil_of_length_pos (by omega)), List.length_map]
  exact ⟨long, by simp [isNumeral_toDigits]⟩

/-- As a number is written in one way only, an identifier has one text. -/
theorem spelling_arcs (oid : Oid) : spelling oid.arcs = oid.text := by
  have numerals := (isNumericOid_iff_splitAt.1 oid.numeric).2
  have parts : oid.arcs.map (Nat.toDigits 10) = Text.splitAt '.' oid.text.toList := by
    rw [arcs, List.map_map]
    exact (List.map_congr_left fun part among => toDigits_numeralValue (numerals part among)).trans
      (List.map_id _)
  rw [← String.toList_inj, toList_spelling, parts, Text.intercalate_splitAt]

theorem two_le_length_arcs (oid : Oid) : 2 ≤ oid.arcs.length := by
  rw [arcs, List.length_map]
  exact (isNumericOid_iff_splitAt.1 oid.numeric).1

/-- No other numbers spell an identifier, and fewer than two spell none. -/
theorem text_eq_spelling_iff {oid : Oid} {arcs : List Nat} :
    oid.text = spelling arcs ↔ arcs = oid.arcs := by
  constructor
  · intro spelt
    have some : arcs ≠ [] := by
      rintro rfl
      have numeric := oid.numeric
      rw [spelt] at numeric
      exact absurd numeric (by decide)
    have value : numeralValue ∘ Nat.toDigits 10 = id := funext numeralValue_toDigits
    rw [Oid.arcs, spelt, splitAt_spelling some, List.map_map, value, List.map_id]
  · rintro rfl
    exact (spelling_arcs oid).symm

/-- A text is an identifier exactly if it is two or more numbers as they are written, joined by
dots. -/
theorem isNumericOid_iff {s : String} :
    isNumericOid s.toList = true ↔ ∃ arcs, 2 ≤ arcs.length ∧ s = spelling arcs := by
  constructor
  · intro numeric
    exact ⟨_, two_le_length_arcs ⟨s, numeric⟩, (spelling_arcs ⟨s, numeric⟩).symm⟩
  · rintro ⟨arcs, long, rfl⟩
    exact isNumericOid_spelling long

theorem arcCount_eq (oid : Oid) : oid.arcCount = oid.arcs.length := by
  rw [arcCount, Text.split, arcs, List.length_map, List.length_map]

/-- Identifiers with the same numbers have the same text. -/
theorem text_inj {one two : Oid} : one.text = two.text ↔ one.arcs = two.arcs := by
  rw [← spelling_arcs two, text_eq_spelling_iff, eq_comm]

/-- What is read from a text is the text without the blanks around it. -/
theorem parse_eq_ok_iff {s : String} {oid : Oid} : parse s = .ok oid ↔ oid.text = Text.trim s := by
  unfold parse
  split
  · rename_i numeric
    exact ⟨fun same => congrArg Oid.text (Except.ok.inj same).symm,
      fun same => congrArg Except.ok (Oid.eq_of_text same.symm)⟩
  · rename_i other
    refine iff_of_false (fun same => by simp at same) fun same => other ?_
    rw [← same]
    exact oid.numeric

theorem exists_parse_iff {s : String} :
    (∃ oid, parse s = .ok oid) ↔ isNumericOid (Text.trim s).toList = true := by
  simp only [parse_eq_ok_iff]
  exact ⟨fun ⟨oid, same⟩ => same ▸ oid.numeric, fun numeric => ⟨⟨_, numeric⟩, rfl⟩⟩

theorem parse_eq_ok_iff_blanks {s : String} {oid : Oid} : parse s = .ok oid ↔ ∃ before after,
    (∀ c ∈ before ++ after, Text.isBlank c = true) ∧ s.toList = before ++ oid.text.toList ++ after := by
  rw [parse_eq_ok_iff, Text.trim, ← String.toList_inj, String.toList_ofList]
  constructor
  · intro same
    rw [same]
    exact Text.exists_blanks s.toList
  · rintro ⟨before, after, blank, whole⟩
    rw [whole, Text.trimBlanks_append blank (plain_of_isNumericOid oid.numeric)]

end Oid

namespace Oid

open RegularExpression

def oneOf (cs : List Char) : RegularExpression Char :=
  cs.foldr (fun c others => char c + others) 0

def nonzeroDigits : List Char := ['1', '2', '3', '4', '5', '6', '7', '8', '9']

/-- A number: `0|[1-9][0-9]*`. -/
def number : RegularExpression Char :=
  char '0' + oneOf nonzeroDigits * star (oneOf ('0' :: nonzeroDigits))

/-- Numbers joined by dots, two at least: a number, and then a dot and a number once or more. -/
def pattern : RegularExpression Char :=
  number * (char '.' * number * star (char '.' * number))

theorem mem_oneOf {cs word : List Char} : word ∈ (oneOf cs).matches' ↔ ∃ c ∈ cs, word = [c] := by
  induction cs with
  | nil => simp [oneOf]
  | cons c cs ih =>
    have step : word ∈ (oneOf (c :: cs)).matches' ↔ word = [c] ∨ word ∈ (oneOf cs).matches' := Iff.rfl
    rw [step, ih, List.exists_mem_cons_iff]

/-- A repeated choice of characters has all words of these characters. -/
theorem mem_star_oneOf {cs word : List Char} :
    word ∈ (star (oneOf cs)).matches' ↔ ∀ c ∈ word, c ∈ cs := by
  rw [matches'_star, Language.mem_kstar]
  constructor
  · rintro ⟨parts, rfl, single⟩ c member
    obtain ⟨part, among, inside⟩ := List.mem_flatten.1 member
    obtain ⟨d, allowed, rfl⟩ := mem_oneOf.1 (single part among)
    rwa [List.mem_singleton.1 inside]
  · intro allowed
    refine ⟨word.map fun c => [c], (List.flatMap_singleton' word).symm, fun part among => ?_⟩
    obtain ⟨c, member, rfl⟩ := List.mem_map.1 among
    exact mem_oneOf.2 ⟨c, allowed c member, rfl⟩

theorem mem_digits {c : Char} : c ∈ '0' :: nonzeroDigits ↔ c.isDigit = true := by
  constructor
  · intro member
    have digits : ('0' :: nonzeroDigits).all Char.isDigit = true := by decide
    exact List.all_eq_true.1 digits c member
  · intro digit
    obtain ⟨small, char⟩ := digitChar_of_isDigit digit
    have all : ∀ n : Fin 10, n.val.digitChar ∈ '0' :: nonzeroDigits := by decide
    exact char ▸ all ⟨_, small⟩

theorem mem_nonzeroDigits {c : Char} : c ∈ nonzeroDigits ↔ c ≠ '0' ∧ c.isDigit = true := by
  rw [← mem_digits, List.mem_cons]
  have apart : '0' ∉ nonzeroDigits := by decide
  constructor
  · intro member
    exact ⟨fun zero => apart (zero ▸ member), Or.inr member⟩
  · rintro ⟨nonzero, member⟩
    exact member.resolve_left nonzero

/-- The words of the pattern of a number are the numerals. -/
theorem mem_number {word : List Char} : word ∈ number.matches' ↔ isNumeral word = true := by
  have cases : word ∈ number.matches' ↔ word = ['0'] ∨
      ∃ first ∈ (oneOf nonzeroDigits).matches',
        ∃ rest ∈ (star (oneOf ('0' :: nonzeroDigits))).matches', first ++ rest = word := Iff.rfl
  rw [cases]
  constructor
  · rintro (rfl | ⟨_, first, cs, rest, rfl⟩)
    · rfl
    · obtain ⟨c, nonzero, rfl⟩ := mem_oneOf.1 first
      obtain ⟨nonzero, digit⟩ := mem_nonzeroDigits.1 nonzero
      refine isNumeral_cons.2 (Or.inr ⟨nonzero, digit, fun d member => ?_⟩)
      exact mem_digits.1 (mem_star_oneOf.1 rest d member)
  · intro numeral
    cases word with
    | nil => simp [isNumeral] at numeral
    | cons c cs =>
      rcases isNumeral_cons.1 numeral with ⟨rfl, rfl⟩ | ⟨nonzero, digit, digits⟩
      · exact Or.inl rfl
      · refine Or.inr ⟨[c], mem_oneOf.2 ⟨c, mem_nonzeroDigits.2 ⟨nonzero, digit⟩, rfl⟩, cs, ?_, rfl⟩
        exact mem_star_oneOf.2 fun d member => mem_digits.2 (digits d member)

theorem mem_dot_number {word : List Char} :
    word ∈ (char '.' * number).matches' ↔ ∃ part, isNumeral part = true ∧ word = '.' :: part := by
  rw [matches'_mul, Language.mem_mul]
  constructor
  · rintro ⟨_, rfl, part, numeral, rfl⟩
    exact ⟨part, mem_number.1 numeral, rfl⟩
  · rintro ⟨part, numeral, rfl⟩
    exact ⟨['.'], rfl, part, mem_number.2 numeral, rfl⟩

theorem mem_star_dot_number {word : List Char} : word ∈ (star (char '.' * number)).matches' ↔
    ∃ parts : List (List Char), (∀ part ∈ parts, isNumeral part = true) ∧
      word = (parts.map ('.' :: ·)).flatten := by
  rw [matches'_star, Language.mem_kstar]
  constructor
  · rintro ⟨words, rfl, each⟩
    refine ⟨words.map List.tail, fun part among => ?_, ?_⟩
    · obtain ⟨word, listed, rfl⟩ := List.mem_map.1 among
      obtain ⟨part, numeral, rfl⟩ := mem_dot_number.1 (each word listed)
      exact numeral
    · rw [List.map_map]
      refine congrArg List.flatten ((List.map_id words).symm.trans (List.map_congr_left ?_))
      intro word listed
      obtain ⟨part, _, rfl⟩ := mem_dot_number.1 (each word listed)
      rfl
  · rintro ⟨parts, numerals, rfl⟩
    refine ⟨_, rfl, fun word listed => ?_⟩
    obtain ⟨part, among, rfl⟩ := List.mem_map.1 listed
    exact mem_dot_number.2 ⟨part, numerals part among, rfl⟩

/-- A word of the pattern, cut at its dots, is the numbers that the pattern has found in it. -/
theorem mem_pattern {word : List Char} : word ∈ pattern.matches' ↔ isNumericOid word = true := by
  rw [pattern, matches'_mul, matches'_mul, isNumericOid_iff_splitAt]
  constructor
  · rintro ⟨first, initial, _, ⟨_, next, _, others, rfl⟩, rfl⟩
    obtain ⟨second, further, rfl⟩ := mem_dot_number.1 next
    obtain ⟨rest, numerals, rfl⟩ := mem_star_dot_number.1 others
    have all : ∀ part ∈ first :: second :: rest, isNumeral part = true :=
      List.forall_mem_cons.2 ⟨mem_number.1 initial, List.forall_mem_cons.2 ⟨further, numerals⟩⟩
    have whole := Text.intercalate_cons '.' first (second :: rest)
    have parts := Text.splitAt_intercalate (fun part among => dot_not_mem_of_isNumeral (all part among))
      (List.cons_ne_nil first (second :: rest))
    rw [whole, List.map_cons, List.flatten_cons] at parts
    rw [parts]
    exact ⟨by simp, all⟩
  · rintro ⟨long, all⟩
    have whole := Text.intercalate_splitAt '.' word
    obtain ⟨first, others, parts⟩ := List.exists_cons_of_length_pos (Nat.zero_lt_of_lt long)
    rw [parts] at whole all long
    obtain ⟨second, rest, rfl⟩ := List.exists_cons_of_length_pos (Nat.lt_of_succ_lt_succ long)
    rw [← whole, Text.intercalate_cons]
    obtain ⟨initial, all⟩ := List.forall_mem_cons.1 all
    obtain ⟨further, all⟩ := List.forall_mem_cons.1 all
    exact ⟨first, mem_number.2 initial, _, ⟨_, mem_dot_number.2 ⟨second, further, rfl⟩, _,
      mem_star_dot_number.2 ⟨rest, all, rfl⟩, rfl⟩, rfl⟩

/-- An identifier is read from a text exactly if the text without the blanks around it is two or more
numbers as they are written, of any size, joined by dots, which is what the pattern finds. The numbers are
the only ones that spell the identifier, so identifiers are the same text exactly if they have the same
numbers. What has been read reads as itself, and any two or more numbers are those of an identifier. -/
theorem parse_exact :
    (∀ s, (∃ oid, parse s = .ok oid) ↔ ∃ arcs, 2 ≤ arcs.length ∧ Text.trim s = spelling arcs) ∧
    (∀ s, (∃ oid, parse s = .ok oid) ↔ (Text.trim s).toList ∈ pattern.matches') ∧
    (∀ s oid, parse s = .ok oid ↔ ∃ before after, (∀ c ∈ before ++ after, Text.isBlank c = true) ∧
      s.toList = before ++ oid.text.toList ++ after) ∧
    (∀ (oid : Oid) arcs, oid.text = spelling arcs ↔ arcs = oid.arcs) ∧
    (∀ oid : Oid, oid.arcCount = oid.arcs.length ∧ 2 ≤ oid.arcs.length) ∧
    (∀ one two : Oid, one.text = two.text ↔ one.arcs = two.arcs) ∧
    (∀ oid : Oid, parse oid.text = .ok oid) ∧
    ∀ arcs, 2 ≤ arcs.length → ∃ oid : Oid, oid.arcs = arcs := by
  refine ⟨fun s => exists_parse_iff.trans isNumericOid_iff, fun s => exists_parse_iff.trans mem_pattern.symm,
    fun s oid => parse_eq_ok_iff_blanks, fun oid arcs => text_eq_spelling_iff,
    fun oid => ⟨arcCount_eq oid, two_le_length_arcs oid⟩, fun one two => text_inj, parse_text,
    fun arcs long => ?_⟩
  exact ⟨⟨spelling arcs, isNumericOid_spelling long⟩, (text_eq_spelling_iff.1 rfl).symm⟩

/-- An identifier with blanks around it, and a number that takes more than 64 bits. -/
theorem parse_exact_person :
    (∃ oid, parse " 2.5.6.6\n" = .ok oid ∧ oid.arcs = [2, 5, 6, 6] ∧ oid.arcCount = 4) ∧
      ∃ oid : Oid, oid.arcs = [2, 18446744073709551616] := by
  obtain ⟨reads, _, _, unique, count, _, _, every⟩ := parse_exact
  have trimmed : Text.trim " 2.5.6.6\n" = spelling [2, 5, 6, 6] := by decide
  obtain ⟨oid, read⟩ := (reads _).2 ⟨_, by decide, trimmed⟩
  have same := (unique oid _).1 ((parse_eq_ok_iff.1 read).trans trimmed)
  exact ⟨⟨oid, read, same.symm, (count oid).1.trans (congrArg List.length same).symm⟩,
    every [2, 18446744073709551616] (by decide)⟩

end Oid

end Subschema
