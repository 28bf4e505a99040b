import Subschema.Proofs.Numerals
import Subschema.Toml.Quoted
import Subschema.Toml.Writer

namespace Subschema.Toml

open Text (push hexScalar?)

theorem hexDigit?_capitalHexDigit {n : Nat} (small : n < 16) :
    Text.hexDigit? (Text.capitalHexDigit n) = some n := by
  have all : ∀ n : Fin 16, Text.hexDigit? (Text.capitalHexDigit n) = some n.val := by decide
  exact all ⟨n, small⟩

/-- Four digits are enough for a character that needs an escape. -/
theorem hexScalar?_control {c : Char} (small : c.toNat < 0x80) :
    hexScalar? ['0', '0', Text.capitalHexDigit (c.toNat / 16), Text.capitalHexDigit (c.toNat % 16)] =
      some c := by
  have zero : Text.hexDigit? '0' = some 0 := by decide
  have high := hexDigit?_capitalHexDigit (show c.toNat / 16 < 16 by omega)
  have low := hexDigit?_capitalHexDigit (show c.toNat % 16 < 16 by omega)
  have whole : c.toNat / 16 * 16 + c.toNat % 16 = c.toNat := by omega
  have valid : c.toNat.isValidChar := Or.inl (by omega)
  simp [hexScalar?, Text.hexValue?, Text.scalar?, zero, high, low, whole, valid]

/-- A character that needs no escape is a line feed or stands for itself. -/
theorem isPlain_of_verbatim {c : Char} (verbatim : needsEscape c = false) (line : c ≠ '\n') :
    isPlain c = true := by
  by_cases tab : c = '\t'
  · subst tab
    rfl
  · simp only [needsEscape, Bool.and_eq_false_iff, Bool.or_eq_false_iff, decide_eq_false_iff_not,
      beq_eq_false_iff_ne, bne_eq_false_iff_eq] at verbatim
    rcases verbatim with (⟨large, erase⟩ | same) | same
    · simp only [isPlain, Bool.or_eq_true, Bool.and_eq_true, decide_eq_true_eq, bne_iff_ne]
      exact Or.inr ⟨by omega, erase⟩
    · exact absurd same tab
    · exact absurd same line

/-- How a character of a basic string is written. -/
inductive Written (c : Char) : Prop
  | letter (e : Char) : escape? e = some c → (∀ rest, writeChar c rest = '\\' :: e :: rest) → Written c
  | number (high low : Char) : hexScalar? ['0', '0', high, low] = some c →
      (∀ rest, writeChar c rest = '\\' :: 'u' :: '0' :: '0' :: high :: low :: rest) → Written c
  | plain : isPlain c = true → c ≠ '"' → c ≠ '\\' → (∀ rest, writeChar c rest = c :: rest) → Written c

/-- What the writer makes of a character: itself, a letter after a slash, or its number. -/
theorem written (c : Char) : Written c := by
  by_cases quote : c = '"'
  · subst quote
    exact .letter '"' rfl fun _ => rfl
  by_cases slash : c = '\\'
  · subst slash
    exact .letter '\\' rfl fun _ => rfl
  by_cases line : c = '\n'
  · subst line
    exact .letter 'n' rfl fun _ => rfl
  by_cases tab : c = '\t'
  · subst tab
    exact .letter 't' rfl fun _ => rfl
  by_cases carriage : c = '\r'
  · subst carriage
    exact .letter 'r' rfl fun _ => rfl
  by_cases back : c = '\x08'
  · subst back
    exact .letter 'b' rfl fun _ => rfl
  by_cases feed : c = '\x0c'
  · subst feed
    exact .letter 'f' rfl fun _ => rfl
  by_cases escaped : needsEscape c = true
  · have small : c.toNat < 0x80 := by
      simp only [needsEscape, Bool.and_eq_true, Bool.or_eq_true, decide_eq_true_eq, beq_iff_eq] at escaped
      omega
    refine .number _ _ (hexScalar?_control small) fun rest => ?_
    simp only [writeChar, quote, slash, line, tab, carriage, back, feed, escaped, if_false, if_true]
  · refine .plain (isPlain_of_verbatim (by simpa using escaped) line) quote slash fun rest => ?_
    simp only [writeChar, quote, slash, line, tab, carriage, back, feed, escaped, if_false]
    rfl

/-- The letters that escapes have, none of which starts the number of a character or ends a line. -/
theorem mem_of_escape? {e c : Char} (stands : escape? e = some c) :
    e ∈ ['b', 't', 'n', 'f', 'r', '"', '\\'] := by
  unfold escape? at stands
  split at stands <;> simp at stands ⊢

theorem writeChar_ne_break (c : Char) (rest : List Char) :
    ∃ d more, writeChar c rest = d :: more ∧ d ≠ '"' ∧ d ≠ '\n' ∧ d ≠ '\r' := by
  cases written c with
  | letter e _ same => exact ⟨'\\', e :: rest, same rest, by decide, by decide, by decide⟩
  | number high low _ same => exact ⟨'\\', _, same rest, by decide, by decide, by decide⟩
  | plain plain quote _ same =>
    refine ⟨c, rest, same rest, quote, ?_, ?_⟩ <;> rintro rfl <;> exact absurd plain (by decide)

theorem readBasic_plain {c : Char} (plain : isPlain c = true) (quote : c ≠ '"') (slash : c ≠ '\\')
    (rest : List Char) : readBasic (c :: rest) = push (some c) (readBasic rest) := by
  rw [readBasic.eq_def]
  split <;> simp_all

theorem readBasic_escape {e c : Char} (stands : escape? e = some c) (rest : List Char) :
    readBasic ('\\' :: e :: rest) = push (some c) (readBasic rest) := by
  have member := mem_of_escape? stands
  rw [← stands]
  simp only [List.mem_cons, List.not_mem_nil, or_false] at member
  rcases member with rfl | rfl | rfl | rfl | rfl | rfl | rfl <;> rfl

/-- However a character is written on one line, it is read as that character. -/
theorem readBasic_writeChar (c : Char) (rest : List Char) :
    readBasic (writeChar c rest) = push (some c) (readBasic rest) := by
  cases written c with
  | letter e stands same => rw [same, readBasic_escape stands]
  | number high low stands same =>
    rw [same, ← stands]
    rfl
  | plain plain quote slash same => rw [same, readBasic_plain plain quote slash]

theorem readBasic_foldr_writeChar (cs rest : List Char) :
    readBasic (cs.foldr writeChar ('"' :: rest)) = some (cs, rest) := by
  induction cs with
  | nil => rfl
  | cons c cs ih =>
    rw [List.foldr_cons, readBasic_writeChar, ih]
    rfl

theorem readLiteral_append {cs : List Char} (plain : ∀ c ∈ cs, isPlain c = true) (quote : '\'' ∉ cs)
    (rest : List Char) : readLiteral (cs ++ '\'' :: rest) = some (cs, rest) := by
  induction cs with
  | nil => rfl
  | cons c cs ih =>
    obtain ⟨own, later⟩ := List.forall_mem_cons.1 plain
    obtain ⟨other, none⟩ := not_or.1 (mt List.mem_cons.2 quote)
    rw [List.cons_append, readLiteral.eq_def]
    split
    · contradiction
    · simp_all
    · simp_all [push]

/-- What may follow a quoted text: no quote. -/
def Unquoted (rest : List Char) : Prop := ∀ c cs, rest = c :: cs → c ≠ '"' ∧ c ≠ '\''

theorem unquoted_cons {c : Char} (double : c ≠ '"') (single : c ≠ '\'') (cs : List Char) :
    Unquoted (c :: cs) := by
  intro d ds same
  obtain ⟨rfl, -⟩ := List.cons.inj same
  exact ⟨double, single⟩

theorem replicate_append_cons {α : Type} (n : Nat) (x : α) (xs : List α) :
    List.replicate n x ++ x :: xs = List.replicate (n + 1) x ++ xs := by
  rw [List.replicate_succ', List.append_assoc, List.singleton_append]

/-- At most two quotes in a row do not close a string if another character comes after them. -/
theorem read_quotes {read : List Char → Option (List Char × List Char)} {quote : Char}
    (lone : ∀ cs, (∀ ds, cs ≠ quote :: quote :: ds) → read (quote :: cs) = push (some quote) (read cs))
    {quotes : Nat} (few : quotes ≤ 2) {c : Char} (other : c ≠ quote) {cs found rest : List Char}
    (after : read (c :: cs) = some (found, rest)) :
    read (List.replicate quotes quote ++ c :: cs) =
      some (List.replicate quotes quote ++ found, rest) := by
  induction quotes with
  | zero => exact after
  | succ quotes ih =>
    rw [List.replicate_succ, List.cons_append, lone, ih (by omega)]
    · rfl
    · intro ds same
      match quotes with
      | 0 => exact other (List.cons.inj same).1
      | 1 => exact other (List.cons.inj (List.cons.inj same).2).1

theorem readBasicLines_escape {e c : Char} (stands : escape? e = some c) (rest : List Char) :
    readBasicLines .no ('\\' :: e :: rest) = push (some c) (readBasicLines .no rest) := by
  have member := mem_of_escape? stands
  rw [← stands]
  simp only [List.mem_cons, List.not_mem_nil, or_false] at member
  rcases member with rfl | rfl | rfl | rfl | rfl | rfl | rfl <;> rfl

theorem readBasicLines_plain {c : Char} (plain : isPlain c = true) (quote : c ≠ '"') (slash : c ≠ '\\')
    (rest : List Char) : readBasicLines .no (c :: rest) = push (some c) (readBasicLines .no rest) := by
  have carriage : c ≠ '\r' := by
    rintro rfl
    exact absurd plain (by decide)
  rw [readBasicLines.eq_def]
  split <;> simp_all

/-- Both readers of strings over lines look for three quotes in a row, so a quote by itself is a
character. -/
theorem readBasicLines_lone (cs : List Char) (lone : ∀ ds, cs ≠ '"' :: '"' :: ds) :
    readBasicLines .no ('"' :: cs) = push (some '"') (readBasicLines .no cs) := by
  rw [readBasicLines]
  · rfl
  all_goals simp_all

/-- However a character is written in a string over lines, it is read as that character. -/
theorem readBasicLines_writeChar (c : Char) (rest : List Char) :
    readBasicLines .no (writeChar c rest) = push (some c) (readBasicLines .no rest) := by
  cases written c with
  | letter e stands same => rw [same, readBasicLines_escape stands]
  | number high low stands same =>
    rw [same, ← stands]
    rfl
  | plain plain quote slash same => rw [same, readBasicLines_plain plain quote slash]

/-- A character that is no quote is written, as itself or as an escape, without a quote in front. -/
theorem writeLines_other {c : Char} (quote : c ≠ '"') (quotes : Nat) (cs rest : List Char) :
    ∃ d more, writeLines quotes (c :: cs) rest = d :: more ∧ d ≠ '"' ∧
      readBasicLines .no (d :: more) = push (some c) (readBasicLines .no (writeLines 0 cs rest)) := by
  rw [writeLines, if_neg quote]
  split
  · rename_i line
    subst line
    exact ⟨'\n', writeLines 0 cs rest, rfl, by decide, rfl⟩
  · obtain ⟨d, more, same, other, -⟩ := writeChar_ne_break c (writeLines 0 cs rest)
    exact ⟨d, more, same, other, by rw [← same, readBasicLines_writeChar]⟩

/-- The induction carries the quotes that have just been written, of which there are at most two. -/
theorem readBasicLines_writeLines {rest : List Char} (ends : Unquoted rest) (cs : List Char)
    {quotes : Nat} (few : quotes ≤ 2) :
    readBasicLines .no
        (List.replicate quotes '"' ++ writeLines quotes cs ('"' :: '"' :: '"' :: rest)) =
      some (List.replicate quotes '"' ++ cs, rest) := by
  induction cs generalizing quotes with
  | nil =>
    -- Together with the closing quotes there are three, four or five in a row, and no more.
    have other : ∀ ds, rest ≠ '"' :: ds := fun ds same => (ends '"' ds same).1 rfl
    rw [writeLines, List.append_nil]
    match quotes with
    | 0 | 1 | 2 => simp [List.replicate_succ, readBasicLines, other]
  | cons c cs ih =>
    by_cases quote : c = '"'
    · subst quote
      rw [writeLines, if_pos rfl]
      split
      · rename_i third
        subst third
        refine read_quotes readBasicLines_lone few (by decide) ?_
        rw [readBasicLines_escape rfl]
        exact congrArg (push (some '"')) (ih (Nat.zero_le 2))
      · rw [replicate_append_cons, replicate_append_cons]
        exact ih (by omega)
    · obtain ⟨d, more, same, other, own⟩ :=
        writeLines_other quote quotes cs ('"' :: '"' :: '"' :: rest)
      rw [same]
      refine read_quotes readBasicLines_lone few other (own.trans ?_)
      exact congrArg (push (some c)) (ih (Nat.zero_le 2))

theorem readLiteralLines_lone (cs : List Char) (lone : ∀ ds, cs ≠ '\'' :: '\'' :: ds) :
    readLiteralLines ('\'' :: cs) = push (some '\'') (readLiteralLines cs) := by
  rw [readLiteralLines]
  · rfl
  all_goals simp_all

/-- A character that needs no escape and is no quote stands for itself in a literal string over lines. -/
theorem readLiteralLines_other {c : Char} (verbatim : needsEscape c = false) (quote : c ≠ '\'')
    (rest : List Char) :
    readLiteralLines (c :: rest) = push (some c) (readLiteralLines rest) := by
  by_cases line : c = '\n'
  · subst line
    rfl
  · have plain := isPlain_of_verbatim verbatim line
    have carriage : c ≠ '\r' := by
      rintro rfl
      exact absurd plain (by decide)
    rw [readLiteralLines.eq_def]
    split <;> simp_all

theorem hasTriple_tail {quote c : Char} {cs : List Char} (clear : hasTriple quote (c :: cs) = false) :
    hasTriple quote cs = false := by
  match cs with
  | [] | [_] => rfl
  | d :: e :: cs =>
    rw [hasTriple, Bool.or_eq_false_iff] at clear
    exact clear.2

/-- The end of a text without three quotes in a row has none either. -/
theorem hasTriple_append {quote : Char} {before cs : List Char}
    (clear : hasTriple quote (before ++ cs) = false) : hasTriple quote cs = false := by
  induction before with
  | nil => exact clear
  | cons c before ih => exact ih (hasTriple_tail clear)

/-- The induction carries the quotes that have just been read, of which there are at most two. -/
theorem readLiteralLines_append {rest : List Char} (ends : Unquoted rest) {cs : List Char}
    (verbatim : ∀ c ∈ cs, needsEscape c = false) {quotes : Nat} (few : quotes ≤ 2)
    (clear : hasTriple '\'' (List.replicate quotes '\'' ++ cs) = false) :
    readLiteralLines (List.replicate quotes '\'' ++ (cs ++ '\'' :: '\'' :: '\'' :: rest)) =
      some (List.replicate quotes '\'' ++ cs, rest) := by
  induction cs generalizing quotes with
  | nil =>
    have other : ∀ ds, rest ≠ '\'' :: ds := fun ds same => (ends '\'' ds same).2 rfl
    rw [List.nil_append, List.append_nil]
    match quotes with
    | 0 | 1 | 2 => simp [List.replicate_succ, readLiteralLines, other]
  | cons c cs ih =>
    obtain ⟨own, later⟩ := List.forall_mem_cons.1 verbatim
    by_cases quote : c = '\''
    · subst quote
      have more : quotes + 1 ≤ 2 := by
        by_contra many
        obtain rfl : quotes = 2 := by omega
        simp [List.replicate_succ, hasTriple] at clear
      rw [replicate_append_cons] at clear
      rw [List.cons_append, replicate_append_cons, replicate_append_cons]
      exact ih later more clear
    · refine read_quotes readLiteralLines_lone few quote ?_
      refine (readLiteralLines_other own quote _).trans ?_
      have tail := ih later (Nat.zero_le 2) (hasTriple_tail (hasTriple_append clear))
      exact congrArg (push (some c)) tail

/-- The break that is written in front of a text with breaks of its own is dropped again. -/
theorem dropBreak_leadBreak {cs body : List Char}
    (starts : '\n' ∉ cs → ∃ c more, body = c :: more ∧ c ≠ '\n' ∧ c ≠ '\r') :
    dropBreak (leadBreak cs body) = body := by
  unfold leadBreak
  split
  · rfl
  · rename_i clear
    obtain ⟨c, more, rfl, line, carriage⟩ := starts (by simpa using clear)
    rw [dropBreak, afterBreak?.eq_def]
    split <;> simp_all

theorem writeLines_starts {cs : List Char} (clear : '\n' ∉ cs) (rest : List Char) :
    ∃ c more, writeLines 0 cs ('"' :: rest) = c :: more ∧ c ≠ '\n' ∧ c ≠ '\r' := by
  cases cs with
  | nil => exact ⟨'"', rest, rfl, by decide, by decide⟩
  | cons c cs =>
    rw [writeLines]
    split
    · exact ⟨'"', _, rfl, by decide, by decide⟩
    · rw [if_neg fun line : c = '\n' => clear (line ▸ List.mem_cons_self)]
      obtain ⟨d, more, same, -, line, carriage⟩ := writeChar_ne_break c (writeLines 0 cs ('"' :: rest))
      exact ⟨d, more, same, line, carriage⟩

theorem literal_starts {cs : List Char} (verbatim : ∀ c ∈ cs, needsEscape c = false) (clear : '\n' ∉ cs)
    (rest : List Char) :
    ∃ c more, cs ++ '\'' :: rest = c :: more ∧ c ≠ '\n' ∧ c ≠ '\r' := by
  cases cs with
  | nil => exact ⟨'\'', rest, rfl, by decide, by decide⟩
  | cons c cs =>
    refine ⟨c, cs ++ '\'' :: rest, rfl, ?_, ?_⟩
    · rintro rfl
      exact clear List.mem_cons_self
    · rintro rfl
      exact absurd (verbatim '\r' List.mem_cons_self) (by decide)

/-- What makes a style suit a text. In a basic string anything can be written. -/
def QuoteStyle.Suits (cs : List Char) : QuoteStyle → Prop
  | .basic | .basicLines => True
  | .literal => (∀ c ∈ cs, needsEscape c = false) ∧ '\'' ∉ cs ∧ '\n' ∉ cs
  | .literalLines => (∀ c ∈ cs, needsEscape c = false) ∧ hasTriple '\'' cs = false

/-- A text is written in the first of four styles that suits it. -/
theorem suits_styleOf (cs : List Char) : (styleOf cs).Suits cs := by
  have verbatim : (!cs.any needsEscape) = true → ∀ c ∈ cs, needsEscape c = false := by
    simp
  unfold styleOf
  simp only [Bool.and_eq_true]
  split
  · trivial
  split
  · rename_i _ literal
    exact ⟨verbatim literal.1.1, by simpa using literal.1.2, by simpa using literal.2⟩
  split
  · trivial
  split
  · rename_i _ _ _ literal
    exact ⟨verbatim literal.1, by simpa using literal.2⟩
  split <;> trivial

/-- One quote opens a basic string, unless it seems to be the first of three. -/
theorem readQuoted_basic (cs : List Char) {rest : List Char} (ends : Unquoted rest) :
    readQuoted ('"' :: cs.foldr writeChar ('"' :: rest)) = some (cs, rest) := by
  have lone : ∀ ds, cs.foldr writeChar ('"' :: rest) ≠ '"' :: '"' :: ds := by
    intro ds same
    cases cs with
    | nil => exact (ends '"' ds (List.cons.inj same).2).1 rfl
    | cons c cs =>
      obtain ⟨d, more, begins, other, -⟩ := writeChar_ne_break c (cs.foldr writeChar ('"' :: rest))
      rw [List.foldr_cons, begins] at same
      exact other (List.cons.inj same).1
  rw [readQuoted, readBasic_foldr_writeChar]
  exact lone

theorem readQuoted_literal {cs : List Char} (plain : ∀ c ∈ cs, isPlain c = true) (quote : '\'' ∉ cs)
    {rest : List Char} (ends : Unquoted rest) :
    readQuoted ('\'' :: (cs ++ '\'' :: rest)) = some (cs, rest) := by
  have lone : ∀ ds, cs ++ '\'' :: rest ≠ '\'' :: '\'' :: ds := by
    intro ds same
    cases cs with
    | nil => exact (ends '\'' ds (List.cons.inj same).2).2 rfl
    | cons c cs => exact quote ((List.cons.inj same).1 ▸ List.mem_cons_self)
  rw [readQuoted, readLiteral_append plain quote]
  exact lone

/-- Whatever its style, a text that is quoted leads the reader to its characters and to what follows
the closing quotes. -/
theorem readQuoted_writeText (s : String) {rest : List Char} (ends : Unquoted rest) :
    readQuoted (writeText s rest) = some (s.toList, rest) := by
  have suits := suits_styleOf s.toList
  dsimp only [writeText]
  split
  · exact readQuoted_basic s.toList ends
  · rename_i style
    rw [style] at suits
    obtain ⟨verbatim, quote, line⟩ := suits
    have plain : ∀ c ∈ s.toList, isPlain c = true := fun c member =>
      isPlain_of_verbatim (verbatim c member) (ne_of_mem_of_not_mem member line)
    exact readQuoted_literal plain quote ends
  · rw [readQuoted, dropBreak_leadBreak fun clear => writeLines_starts clear _]
    exact readBasicLines_writeLines ends s.toList (Nat.zero_le 2)
  · rename_i style
    rw [style] at suits
    rw [readQuoted, dropBreak_leadBreak fun clear => literal_starts suits.1 clear _]
    exact readLiteralLines_append ends suits.1 (Nat.zero_le 2) suits.2

/-- The first quote of a text tells the reader of values what comes. -/
theorem writeText_starts (s : String) (rest : List Char) :
    ∃ c more, writeText s rest = c :: more ∧ (c = '"' ∨ c = '\'') := by
  dsimp only [writeText]
  split
  · exact ⟨'"', _, rfl, Or.inl rfl⟩
  · exact ⟨'\'', _, rfl, Or.inr rfl⟩
  · exact ⟨'"', _, rfl, Or.inl rfl⟩
  · exact ⟨'\'', _, rfl, Or.inr rfl⟩

end Subschema.Toml
