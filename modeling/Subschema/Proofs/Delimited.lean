import Subschema.Proofs.Spelling

namespace Subschema

/-- Whether a character may stand in a name or in an identifier. -/
def isSpellingChar (c : Char) : Bool :=
  isLetter c || c.isDigit || c == '-' || c == '.'

/-- A text with no other characters than those of names and identifiers. -/
def Spelled (s : String) : Prop := ∀ c ∈ s.toList, isSpellingChar c = true

theorem spelled_of_isDescr {name : String} (descr : isDescr name.toList = true) : Spelled name := by
  intro c member
  unfold isSpellingChar
  cases cs : name.toList with
  | nil => simp [cs] at member
  | cons first rest =>
    rw [cs] at descr member
    obtain ⟨letter, others⟩ := Bool.and_eq_true_iff.1 descr
    rcases List.mem_cons.1 member with rfl | later
    · simp [letter]
    · simp [List.all_eq_true.1 others c later]

theorem spelled_of_isNumericOid {s : String} (numeric : isNumericOid s.toList = true) : Spelled s := by
  intro c member
  rcases digit_or_dot_of_isNumericOid numeric c member with digit | rfl
  · simp [isSpellingChar, digit]
  · rfl

theorem Oid.spelled (oid : Oid) : Spelled oid.text := spelled_of_isNumericOid oid.numeric

/-- What may follow a name or an identifier: not another of its characters. -/
def Ends (cs : List Char) : Prop := ∀ c rest, cs = c :: rest → isSpellingChar c = false

theorem ends_cons {c : Char} (other : isSpellingChar c = false) (rest : List Char) : Ends (c :: rest) := by
  intro d others same
  rwa [← (List.cons.inj same).1]

/-- Good things are written in such a way that, if something follows as it should, it can be told what has
been written and where it ends. -/
def Delimits {β : Type} (write : β → List Char) (good : β → Prop) (follows : List Char → Prop) : Prop :=
  ∀ a b rest others, good a → good b → follows rest → follows others →
    write a ++ rest = write b ++ others → a = b ∧ rest = others

/-- A name or an identifier ends at the first character that neither can have, so that what is
written around it need not be escaped. -/
theorem takeWhile_spelled {s : String} {rest : List Char} (spelled : Spelled s) (ends : Ends rest) :
    (s.toList ++ rest).takeWhile isSpellingChar = s.toList := by
  rw [List.takeWhile_append_of_pos spelled]
  cases rest with
  | nil => rw [List.takeWhile_nil, List.append_nil]
  | cons c rest => rw [List.takeWhile_cons_of_neg (by simp [ends c rest rfl]), List.append_nil]

/-- No name or identifier begins with another and an end. -/
theorem delimits_spelled : Delimits String.toList Spelled Ends := by
  intro a b rest others spelled also ends stops same
  have texts : a.toList = b.toList := by
    rw [← takeWhile_spelled spelled ends, same, takeWhile_spelled also stops]
  rw [texts] at same
  exact ⟨String.toList_inj.1 texts, List.append_cancel_left same⟩

/-- Things written one after the other can be told apart as well if what follows the last one does not look
like one more. -/
theorem Delimits.flatMap {β : Type} {write : β → List Char} {good : β → Prop}
    {follows stops : List Char → Prop} (delimits : Delimits write good follows)
    (next : ∀ a rest, good a → follows (write a ++ rest)) (last : ∀ rest, stops rest → follows rest)
    (apart : ∀ a rest, good a → ¬ stops (write a ++ rest)) :
    Delimits (List.flatMap write) (fun items => ∀ a ∈ items, good a) stops := by
  intro items found rest others all also stop halt same
  have onward : ∀ (items : List β) rest, (∀ a ∈ items, good a) → stops rest →
      follows (items.flatMap write ++ rest) := by
    intro items rest all stop
    cases items with
    | nil => exact last rest stop
    | cons a items =>
      rw [List.flatMap_cons, List.append_assoc]
      exact next a _ (all a List.mem_cons_self)
  induction items generalizing found with
  | nil =>
    cases found with
    | nil => exact ⟨rfl, same⟩
    | cons b found =>
      rw [List.flatMap_nil, List.nil_append, List.flatMap_cons, List.append_assoc] at same
      exact absurd (same ▸ stop) (apart b _ (also b List.mem_cons_self))
  | cons a items ih =>
    obtain ⟨here, later⟩ := List.forall_mem_cons.1 all
    cases found with
    | nil =>
      rw [List.flatMap_nil, List.nil_append, List.flatMap_cons, List.append_assoc] at same
      exact absurd (same ▸ halt) (apart a _ here)
    | cons b found =>
      obtain ⟨there, further⟩ := List.forall_mem_cons.1 also
      rw [List.flatMap_cons, List.flatMap_cons, List.append_assoc, List.append_assoc] at same
      obtain ⟨first, remaining⟩ := delimits a b _ _ here there (onward items rest later stop)
        (onward found others further halt) same
      obtain ⟨onwards, ends⟩ := ih found later further remaining
      exact ⟨congrArg₂ List.cons first onwards, ends⟩

/-- What stands before the first occurrence of a mark, and what after it. -/
theorem append_cons_inj_of_first {β : Type} {mark : β} {before after others further : List β}
    (free : mark ∉ before) (also : mark ∉ others)
    (same : before ++ mark :: after = others ++ mark :: further) : before = others ∧ after = further := by
  induction before generalizing others with
  | nil =>
    cases others with
    | nil => exact ⟨rfl, (List.cons.inj same).2⟩
    | cons b others => exact absurd ((List.cons.inj same).1 ▸ List.mem_cons_self) also
  | cons a before ih =>
    cases others with
    | nil => exact absurd ((List.cons.inj same).1 ▸ List.mem_cons_self) free
    | cons b others =>
      obtain ⟨rfl, onward⟩ := List.cons.inj same
      obtain ⟨rfl, rest⟩ := ih (fun later => free (List.mem_cons_of_mem _ later))
        (fun later => also (List.mem_cons_of_mem _ later)) onward
      exact ⟨rfl, rest⟩

/-- What stands before the last occurrence of a mark, and what after it. -/
theorem append_cons_inj_of_last {β : Type} {mark : β} {before after others further : List β}
    (free : mark ∉ after) (also : mark ∉ further)
    (same : before ++ mark :: after = others ++ mark :: further) : before = others ∧ after = further := by
  have back : after.reverse ++ mark :: before.reverse = further.reverse ++ mark :: others.reverse := by
    simpa using congrArg List.reverse same
  obtain ⟨ends, starts⟩ := append_cons_inj_of_first (by simpa using free) (by simpa using also) back
  exact ⟨List.reverse_inj.1 starts, List.reverse_inj.1 ends⟩

end Subschema
