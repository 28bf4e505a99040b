import Subschema.Json.Reader
import Subschema.Json.Writer
import Subschema.Proofs.Numerals

namespace Subschema.Json

theorem Reader.run_cons {reader next : Reader} {c : Char} (step : reader.step c = some next)
    (rest : List Char) : reader.run (c :: rest) = next.run rest := by
  rw [run, List.foldlM_cons, step]
  rfl

/-- A reader that blanks leave where it is. -/
def Reader.Rests (reader : Reader) : Prop := ∀ c, isSpace c = true → reader.step c = some reader

theorem Reader.Rests.run {reader : Reader} (rests : reader.Rests) {gap : List Char}
    (blank : ∀ c ∈ gap, isSpace c = true) (rest : List Char) :
    reader.run (gap ++ rest) = reader.run rest := by
  induction gap with
  | nil => rfl
  | cons c gap ih =>
    obtain ⟨own, later⟩ := List.forall_mem_cons.1 blank
    rw [List.cons_append, run_cons (rests c own), ih later]

theorem rests_value (closable : Bool) (frames : List Frame) :
    (⟨.value closable, frames⟩ : Reader).Rests :=
  fun _ space => if_pos space

theorem rests_key (before : List (Option String × Json)) (closable : Bool) (frames : List Frame) :
    (⟨.key before closable, frames⟩ : Reader).Rests :=
  fun _ space => if_pos space

theorem rests_complete (value : Json) (frames : List Frame) :
    (⟨.complete value, frames⟩ : Reader).Rests :=
  fun _ space => if_pos space

/-- No character is half of a pair. -/
theorem toNat_lt_or_lt_toNat (c : Char) : c.toNat < 0xD800 ∨ 0xDFFF < c.toNat := by
  rcases c.valid with low | high
  · exact Or.inl low
  · exact Or.inr high.1

/-- Code points that are characters spell these. -/
theorem charsOfUnits_map_toNat (cs : List Char) : charsOfUnits (cs.map Char.toNat) = some cs := by
  induction cs with
  | nil => rfl
  | cons c cs ih =>
    have range := toNat_lt_or_lt_toNat c
    have notHigh : isHighSurrogate c.toNat = false := by
      simp only [isHighSurrogate, Bool.and_eq_false_iff, decide_eq_false_iff_not]
      omega
    have notLow : isLowSurrogate c.toNat = false := by
      simp only [isLowSurrogate, Bool.and_eq_false_iff, decide_eq_false_iff_not]
      omega
    rw [List.map_cons, charsOfUnits.eq_def]
    simp only [notHigh, notLow, Bool.false_eq_true, if_false, ih, Char.ofNat_toNat]
    rfl

theorem hexDigit?_hexDigit {n : Nat} (small : n < 16) : Text.hexDigit? (Text.hexDigit n) = some n := by
  have all : ∀ n : Fin 16, Text.hexDigit? (Text.hexDigit n) = some n.val := by decide
  exact all ⟨n, small⟩

section Strings

variable {role : StringRole} {frames : List Frame}

/-- The reader inside a string, outside of any escape. -/
abbrev Reader.within (role : StringRole) (units : List Nat) (frames : List Frame) : Reader :=
  ⟨.string role ⟨units, .outside⟩, frames⟩

theorem run_plain {c : Char} {units : List Nat} (rest : List Char) (quote : c ≠ '"') (slash : c ≠ '\\')
    (large : ¬ c.toNat < 0x20) :
    (Reader.within role units frames).run (c :: rest) =
      (Reader.within role (c.toNat :: units) frames).run rest := by
  refine Reader.run_cons ?_ rest
  simp [Reader.within, Reader.step, StringScan.atEnd, StringScan.step, quote, slash, large]

theorem run_letter {c : Char} {unit : Nat} {units : List Nat} (rest : List Char) (other : c ≠ 'u')
    (stands : escapeUnit? c = some unit) :
    (Reader.within role units frames).run ('\\' :: c :: rest) =
      (Reader.within role (unit :: units) frames).run rest := by
  have opens : (Reader.within role units frames).step '\\' =
      some ⟨.string role ⟨units, .backslash⟩, frames⟩ := rfl
  rw [Reader.run_cons opens]
  refine Reader.run_cons ?_ rest
  simp [Reader.step, StringScan.atEnd, StringScan.step, other, stands]

/-- A character escaped with its number, of which the first two digits are zeros. -/
theorem run_number {n : Nat} {units : List Nat} (rest : List Char) (small : n < 0x100) :
    (Reader.within role units frames).run ('\\' :: 'u' :: '0' :: '0' ::
        Text.hexDigit (n / 16) :: Text.hexDigit (n % 16) :: rest) =
      (Reader.within role (n :: units) frames).run rest := by
  have high : Text.hexDigit? (Text.hexDigit (n / 16)) = some (n / 16) := hexDigit?_hexDigit (by omega)
  have low : Text.hexDigit? (Text.hexDigit (n % 16)) = some (n % 16) := hexDigit?_hexDigit (by omega)
  have opens : (Reader.within role units frames).run ('\\' :: 'u' :: '0' :: '0' ::
        Text.hexDigit (n / 16) :: Text.hexDigit (n % 16) :: rest) =
      (⟨.string role ⟨units, .hex 2 0⟩, frames⟩ : Reader).run
        (Text.hexDigit (n / 16) :: Text.hexDigit (n % 16) :: rest) := rfl
  have next : (⟨.string role ⟨units, .hex 2 0⟩, frames⟩ : Reader).step (Text.hexDigit (n / 16)) =
      some ⟨.string role ⟨units, .hex 1 (n / 16)⟩, frames⟩ := by
    simp [Reader.step, StringScan.atEnd, StringScan.step, high]
  have last : (⟨.string role ⟨units, .hex 1 (n / 16)⟩, frames⟩ : Reader).step
        (Text.hexDigit (n % 16)) = some (Reader.within role (n :: units) frames) := by
    have whole : n / 16 * 16 + n % 16 = n := by omega
    simp [Reader.step, StringScan.atEnd, StringScan.step, low, whole]
  rw [opens, Reader.run_cons next, Reader.run_cons last]

/-- However a character is written, the reader takes it for that character. -/
theorem run_writeChar (c : Char) (units : List Nat) (rest : List Char) :
    (Reader.within role units frames).run (writeChar c rest) =
      (Reader.within role (c.toNat :: units) frames).run rest := by
  unfold writeChar
  split
  · rename_i quote
    subst quote
    exact run_letter rest (by decide) rfl
  split
  · rename_i slash
    subst slash
    exact run_letter rest (by decide) rfl
  split
  · rename_i line
    subst line
    exact run_letter rest (by decide) rfl
  split
  · rename_i back
    subst back
    exact run_letter rest (by decide) rfl
  split
  · rename_i tab
    subst tab
    exact run_letter rest (by decide) rfl
  split
  · rename_i erases
    exact run_letter rest (by decide) (by rw [erases]; rfl)
  split
  · rename_i feed
    exact run_letter rest (by decide) (by rw [feed]; rfl)
  split
  · rename_i control
    exact run_number rest (by omega)
  · rename_i quote slash _ _ _ _ _ large
    exact run_plain rest quote slash large

theorem run_foldr_writeChar (cs : List Char) (units : List Nat) (rest : List Char) :
    (Reader.within role units frames).run (cs.foldr writeChar rest) =
      (Reader.within role ((cs.map Char.toNat).reverse ++ units) frames).run rest := by
  induction cs generalizing units with
  | nil => rfl
  | cons c cs ih =>
    rw [List.foldr_cons, run_writeChar, ih, List.map_cons, List.reverse_cons, List.append_assoc]
    rfl

/-- The reader after the closing quote. -/
def Reader.closed (role : StringRole) (text : Option String) (frames : List Frame) : Reader :=
  match role with
  | .value => ⟨.complete (.string text), frames⟩
  | .key before => ⟨.colon before text, frames⟩

/-- The text of a string leads the reader to its characters. -/
theorem run_writeString {reader : Reader} (opens : reader.step '"' = some (.within role [] frames))
    (text : Option String) (rest : List Char) :
    reader.run (writeString text rest) = (Reader.closed role text frames).run rest := by
  cases text with
  | none =>
    rw [writeString.eq_def, Reader.run_cons opens]
    dsimp only
    rw [String.toList_ofList]
    cases role <;> rfl
  | some s =>
    have scanned : StringScan.text ⟨(s.toList.map Char.toNat).reverse ++ [], .outside⟩ = some s := by
      rw [StringScan.text, List.append_nil, List.reverse_reverse, charsOfUnits_map_toNat,
        Option.map_some, String.ofList_toList]
    have ends : (Reader.within role ((s.toList.map Char.toNat).reverse ++ []) frames).step '"' =
        some (Reader.closed role (some s) frames) := by
      rw [← scanned]
      cases role <;> rfl
    rw [writeString.eq_def, Reader.run_cons opens, run_foldr_writeChar, Reader.run_cons ends]

end Strings

/-- A reader that has come to the end of a value. -/
inductive Reader.Holds : Reader → Json → List Frame → Prop
  | complete (value : Json) (frames : List Frame) : Holds ⟨.complete value, frames⟩ value frames
  | number {scan : NumberScan} {value : Json} (frames : List Frame) :
      scan.value? = some value → Holds ⟨.number scan, frames⟩ value frames

theorem Reader.Holds.result? {reader : Reader} {value : Json} (holds : reader.Holds value []) :
    reader.result? = some value := by
  cases holds with
  | complete => rfl
  | number _ ends => exact ends

/-- The characters that may follow a value: a blank, or what goes on in a container or closes it. -/
def isDelimiter (c : Char) : Bool := isSpace c || c == ',' || c == ']' || c == '}'

theorem NumberScan.step_eq_none {scan : NumberScan} {value : Json} (ends : scan.value? = some value)
    {c : Char} (delimits : isDelimiter c = true) : scan.step c = none := by
  obtain rfl | rfl | rfl | rfl | rfl | rfl | rfl : c = ' ' ∨ c = '\t' ∨ c = '\n' ∨ c = '\r' ∨
      c = ',' ∨ c = ']' ∨ c = '}' := by
    simpa [isDelimiter, isSpace, or_assoc] using delimits
  all_goals
    obtain ⟨part, _, _, _, _, _⟩ := scan
    cases part with
    | zero => rfl
    | whole => rfl
    | fraction => rfl
    | exponentDigits => rfl
    | minus => simp [value?] at ends
    | point => simp [value?] at ends
    | exponent => simp [value?] at ends
    | exponentSign => simp [value?] at ends

/-- What follows a value is what tells the reader that the value is complete. -/
theorem Reader.Holds.step {reader : Reader} {value : Json} {frames : List Frame}
    (holds : reader.Holds value frames) {c : Char} (delimits : isDelimiter c = true) :
    reader.step c = afterValue value frames c := by
  cases holds with
  | complete => rfl
  | number _ ends => simp [Reader.step, NumberScan.step_eq_none ends delimits, ends]

/-- A blank is what shows that a number is complete; no more than that happens to a value. -/
theorem Reader.Holds.run_gap {reader : Reader} {value : Json} {frames : List Frame}
    (holds : reader.Holds value frames) {gap : List Char} (blank : ∀ c ∈ gap, isSpace c = true)
    (rest : List Char) :
    ∃ next : Reader, next.Holds value frames ∧ reader.run (gap ++ rest) = next.run rest := by
  cases gap with
  | nil => exact ⟨reader, holds, rfl⟩
  | cons c gap =>
    obtain ⟨own, later⟩ := List.forall_mem_cons.1 blank
    have first : reader.step c = some ⟨.complete value, frames⟩ := by
      rw [holds.step (by simp [isDelimiter, own]), afterValue.eq_def, if_pos own]
    refine ⟨⟨.complete value, frames⟩, .complete value frames, ?_⟩
    rw [List.cons_append, run_cons first, (rests_complete value frames).run later]

/-- The digits of a positive number: the first is not a zero, and together they are worth the number. -/
theorem exists_digits {n : Nat} (positive : 0 < n) :
    ∃ c cs, (toString n).toList = c :: cs ∧ c ≠ '0' ∧ c.isDigit = true ∧
      (∀ d ∈ cs, d.isDigit = true) ∧ cs.foldl pushDigit (pushDigit 0 c) = n := by
  obtain ⟨c, cs, digits, nonzero⟩ := exists_toDigits positive
  have decimal : ∀ d ∈ c :: cs, d.isDigit = true :=
    fun d member => Nat.isDigit_of_mem_toDigits (by decide) (by decide) (digits ▸ member)
  obtain ⟨own, rest⟩ := List.forall_mem_cons.1 decimal
  have push : ∀ sofar d, 10 * sofar + (d.toNat - '0'.toNat) = pushDigit sofar d :=
    fun sofar d => by rw [pushDigit, Nat.mul_comm]
  have worth := @Nat.ofDigitChars_ten_toDigits n
  simp only [Nat.ofDigitChars_eq_foldl, digits, List.foldl_cons, push] at worth
  exact ⟨c, cs, Nat.toList_repr.trans digits, nonzero, own, rest, worth⟩

/-- The reader of a whole number that does not begin with a zero. -/
abbrev Reader.counting (negative : Bool) (n : Nat) (frames : List Frame) : Reader :=
  ⟨.number { part := .whole, negative, whole := n }, frames⟩

theorem run_digits {cs : List Char} (digits : ∀ c ∈ cs, c.isDigit = true) (negative : Bool) (n : Nat)
    (frames : List Frame) (rest : List Char) :
    (Reader.counting negative n frames).run (cs ++ rest) =
      (Reader.counting negative (cs.foldl pushDigit n) frames).run rest := by
  induction cs generalizing n with
  | nil => rfl
  | cons c cs ih =>
    obtain ⟨own, later⟩ := List.forall_mem_cons.1 digits
    have step : (Reader.counting negative n frames).step c =
        some (Reader.counting negative (pushDigit n c) frames) := by
      simp [Reader.counting, Reader.step, NumberScan.step, own]
    rw [List.cons_append, Reader.run_cons step, ih later, List.foldl_cons]

/-- Wherever a value has to come, a text of it, written in front of what follows, leads to the value and
no further. -/
def ReadsBack (text : List Char → List Char) (value : Json) : Prop :=
  ∀ closable frames rest, ∃ reader : Reader, reader.Holds value frames ∧
    (⟨.value closable, frames⟩ : Reader).run (text rest) = reader.run rest

/-- Blanks before a value make no difference, so that one line and several lines are read alike. -/
theorem ReadsBack.indent {text : List Char → List Char} {value : Json} (reads : ReadsBack text value)
    {gap : List Char} (blank : ∀ c ∈ gap, isSpace c = true) :
    ReadsBack (fun rest => gap ++ text rest) value := by
  intro closable frames rest
  obtain ⟨reader, holds, runs⟩ := reads closable frames rest
  exact ⟨reader, holds, ((rests_value closable frames).run blank _).trans runs⟩

theorem step_digit {c : Char} (digit : c.isDigit = true) (nonzero : c ≠ '0') (closable : Bool)
    (frames : List Frame) :
    (⟨.value closable, frames⟩ : Reader).step c =
      some (.counting false (pushDigit 0 c) frames) := by
  have other : ∀ d : Char, d.isDigit = false → c ≠ d := by
    rintro d letter rfl
    simp [letter] at digit
  simp [Reader.step, atValue, isSpace, digit, nonzero, other ' ' rfl, other '\t' rfl, other '\n' rfl,
    other '\r' rfl, other '\x7b' rfl, other '[' rfl, other '"' rfl, other '-' rfl]

/-- A number is read back. Only what follows shows that it is complete, so the reader does not know
yet. -/
theorem readsBack_integer (n : Int) : ReadsBack (writeInteger n) (.integer n) := by
  intro closable frames rest
  rw [writeInteger]
  obtain (_ | n) | n := n
  · exact ⟨⟨.number { part := .zero }, frames⟩, .number frames rfl, rfl⟩
  · obtain ⟨c, cs, digits, nonzero, own, decimal, worth⟩ := exists_digits (Nat.succ_pos n)
    have text : (toString (Int.ofNat (n + 1))).toList = c :: cs := digits
    refine ⟨.counting false (n + 1) frames, .number frames rfl, ?_⟩
    rw [text, List.cons_append, Reader.run_cons (step_digit own nonzero closable frames),
      run_digits decimal, worth]
  · obtain ⟨c, cs, digits, nonzero, own, decimal, worth⟩ := exists_digits (Nat.succ_pos n)
    have text : (toString (Int.negSucc n)).toList = '-' :: c :: cs := by
      have minus : toString (Int.negSucc n) = "-" ++ toString (n + 1) := rfl
      rw [minus, String.toList_append, digits]
      rfl
    have signed : (⟨.value closable, frames⟩ : Reader).step '-' =
        some ⟨.number { part := .minus, negative := true }, frames⟩ := rfl
    have first : (⟨.number { part := .minus, negative := true }, frames⟩ : Reader).step c =
        some (.counting true (pushDigit 0 c) frames) := by
      simp [Reader.step, NumberScan.step, own, nonzero]
    refine ⟨.counting true (n + 1) frames, .number frames rfl, ?_⟩
    rw [text, List.cons_append, List.cons_append, Reader.run_cons signed, Reader.run_cons first,
      run_digits decimal, worth]

/-- Wherever a member has to come, a text of it leads to its value and no further. -/
def MemberReadsBack (text : List Char → List Char) (member : Option String × Json) : Prop :=
  ∀ before closable frames rest, ∃ reader : Reader,
    reader.Holds member.2 (.object before member.1 :: frames) ∧
      (⟨.key before closable, frames⟩ : Reader).run (text rest) = reader.run rest

theorem MemberReadsBack.indent {text : List Char → List Char} {member : Option String × Json}
    (reads : MemberReadsBack text member) {gap : List Char} (blank : ∀ c ∈ gap, isSpace c = true) :
    MemberReadsBack (fun rest => gap ++ text rest) member := by
  intro before closable frames rest
  obtain ⟨reader, holds, runs⟩ := reads before closable frames rest
  exact ⟨reader, holds, ((rests_key before closable frames).run blank _).trans runs⟩

theorem ReadsBack.member {text : List Char → List Char} {value : Json} (reads : ReadsBack text value)
    (key : Option String) :
    MemberReadsBack (fun rest => writeString key (':' :: text rest)) (key, value) := by
  intro before closable frames rest
  obtain ⟨reader, holds, runs⟩ := reads false (.object before key :: frames) rest
  have opens : (⟨.key before closable, frames⟩ : Reader).step '"' =
      some (.within (.key before) [] frames) := rfl
  have colon : (Reader.closed (.key before) key frames).step ':' =
      some ⟨.value false, .object before key :: frames⟩ := rfl
  exact ⟨reader, holds, by rw [run_writeString opens, Reader.run_cons colon, runs]⟩

/-- What is written of the elements of a container after the first, and of its end. -/
def continued {α : Type} (text : α → List Char → List Char) (elements : List α) (ending : List Char) :
    List Char :=
  elements.foldr (fun element rest => ',' :: text element rest) ending

/-- The elements are read in turn; what holds of a reader that has come past some of them is for the kind of
container to say. -/
theorem run_continued {α : Type} {text : α → List Char → List Char} {past : List α → Reader → Prop}
    {elements : List α}
    (each : ∀ element ∈ elements, ∀ done reader rest, past done reader →
      ∃ next, past (element :: done) next ∧ reader.run (',' :: text element rest) = next.run rest)
    {done : List α} {reader : Reader} (stands : past done reader) (ending : List Char) :
    ∃ last, past (elements.reverse ++ done) last ∧
      reader.run (continued text elements ending) = last.run ending := by
  induction elements generalizing done reader with
  | nil => exact ⟨reader, stands, rfl⟩
  | cons element elements ih =>
    obtain ⟨own, later⟩ := List.forall_mem_cons.1 each
    obtain ⟨next, onward, runs⟩ := own done reader (continued text elements ending) stands
    obtain ⟨last, ends, rest⟩ := ih later onward
    refine ⟨last, ?_, runs.trans rest⟩
    rw [List.reverse_cons, List.append_assoc]
    exact ends

section Containers

variable {frames : List Frame} {gap : List Char}

/-- A reader that has come to the end of an item; the items up to it, last first. -/
def Reader.PastItems (frames : List Frame) (done : List Json) (reader : Reader) : Prop :=
  ∃ item before, done = item :: before ∧ reader.Holds item (.array before :: frames)

theorem ReadsBack.pastItems {text : List Char → List Char} {item : Json} (reads : ReadsBack text item)
    (done : List Json) (reader : Reader) (rest : List Char) (past : reader.PastItems frames done) :
    ∃ next : Reader, next.PastItems frames (item :: done) ∧
      reader.run (',' :: text rest) = next.run rest := by
  obtain ⟨value, before, rfl, holds⟩ := past
  obtain ⟨next, held, runs⟩ := reads false (.array (value :: before) :: frames) rest
  have goesOn := holds.step (show isDelimiter ',' = true from rfl)
  exact ⟨next, ⟨item, _, rfl, held⟩, (Reader.run_cons goesOn _).trans runs⟩

theorem Reader.PastItems.close {reader : Reader} {done : List Json} (past : reader.PastItems frames done)
    (blank : ∀ c ∈ gap, isSpace c = true) (rest : List Char) :
    reader.run (gap ++ ']' :: rest) = (⟨.complete (.array done.reverse), frames⟩ : Reader).run rest := by
  obtain ⟨item, before, rfl, holds⟩ := past
  obtain ⟨next, held, runs⟩ := holds.run_gap blank (']' :: rest)
  have closes := held.step (show isDelimiter ']' = true from rfl)
  exact runs.trans (run_cons closes rest)

/-- A list is read back, whatever containers are open around it, if its items are. -/
theorem readsBack_array {text : Json → List Char → List Char} {item : Json} {items : List Json}
    (blank : ∀ c ∈ gap, isSpace c = true) (each : ∀ i ∈ item :: items, ReadsBack (text i) i) :
    ReadsBack (fun rest => '[' :: text item (continued text items (gap ++ ']' :: rest)))
      (.array (item :: items)) := by
  intro closable frames rest
  obtain ⟨own, later⟩ := List.forall_mem_cons.1 each
  have opens : (⟨.value closable, frames⟩ : Reader).step '[' =
      some ⟨.value true, .array [] :: frames⟩ := rfl
  obtain ⟨reader, holds, first⟩ := own true (.array [] :: frames)
    (continued text items (gap ++ ']' :: rest))
  have started : reader.PastItems frames [item] := ⟨item, [], rfl, holds⟩
  obtain ⟨last, past, others⟩ := run_continued (fun i inside => (later i inside).pastItems) started
    (gap ++ ']' :: rest)
  refine ⟨_, .complete _ frames, ?_⟩
  rw [Reader.run_cons opens, first, others, past.close blank, List.reverse_append, List.reverse_reverse]
  rfl

/-- A reader that has come to the end of a member; the members up to it, last first. -/
def Reader.PastMembers (frames : List Frame) (done : List (Option String × Json)) (reader : Reader) :
    Prop :=
  ∃ member before, done = member :: before ∧
    reader.Holds member.2 (.object before member.1 :: frames)

theorem MemberReadsBack.pastMembers {text : List Char → List Char} {member : Option String × Json}
    (reads : MemberReadsBack text member) (done : List (Option String × Json)) (reader : Reader)
    (rest : List Char) (past : reader.PastMembers frames done) :
    ∃ next : Reader, next.PastMembers frames (member :: done) ∧
      reader.run (',' :: text rest) = next.run rest := by
  obtain ⟨⟨key, value⟩, before, rfl, holds⟩ := past
  obtain ⟨next, held, runs⟩ := reads ((key, value) :: before) false frames rest
  have goesOn := holds.step (show isDelimiter ',' = true from rfl)
  exact ⟨next, ⟨member, _, rfl, held⟩, (Reader.run_cons goesOn _).trans runs⟩

theorem Reader.PastMembers.close {reader : Reader} {done : List (Option String × Json)}
    (past : reader.PastMembers frames done) (blank : ∀ c ∈ gap, isSpace c = true) (rest : List Char) :
    reader.run (gap ++ '}' :: rest) =
      (⟨.complete (.object done.reverse), frames⟩ : Reader).run rest := by
  obtain ⟨⟨key, value⟩, before, rfl, holds⟩ := past
  obtain ⟨next, held, runs⟩ := holds.run_gap blank ('}' :: rest)
  have closes := held.step (show isDelimiter '}' = true from rfl)
  exact runs.trans (run_cons closes rest)

theorem readsBack_object {text : Option String × Json → List Char → List Char}
    {member : Option String × Json} {members : List (Option String × Json)}
    (blank : ∀ c ∈ gap, isSpace c = true)
    (each : ∀ m ∈ member :: members, MemberReadsBack (text m) m) :
    ReadsBack (fun rest => '\x7b' :: text member (continued text members (gap ++ '}' :: rest)))
      (.object (member :: members)) := by
  intro closable frames rest
  obtain ⟨own, later⟩ := List.forall_mem_cons.1 each
  have opens : (⟨.value closable, frames⟩ : Reader).step '\x7b' =
      some ⟨.key [] true, frames⟩ := rfl
  obtain ⟨reader, holds, first⟩ := own [] true frames (continued text members (gap ++ '}' :: rest))
  have started : reader.PastMembers frames [member] := ⟨member, [], rfl, holds⟩
  obtain ⟨last, past, others⟩ := run_continued (fun m inside => (later m inside).pastMembers) started
    (gap ++ '}' :: rest)
  refine ⟨_, .complete _ frames, ?_⟩
  rw [Reader.run_cons opens, first, others, past.close blank, List.reverse_append, List.reverse_reverse]
  rfl

end Containers

/-- Each of the two writers puts the parts of a container one after another in its own way. -/
theorem writeItems_eq (items : List Json) (rest : List Char) :
    writeItems items rest = continued write items rest := by
  induction items with
  | nil => rw [writeItems, continued, List.foldr_nil]
  | cons item items ih => rw [writeItems, ih, continued, continued, List.foldr_cons]

/-- A member with nothing between its tokens. -/
def writeMember (member : Option String × Json) (rest : List Char) : List Char :=
  writeString member.1 (':' :: member.2.write rest)

theorem writeMembers_eq (members : List (Option String × Json)) (rest : List Char) :
    writeMembers members rest = continued writeMember members rest := by
  induction members with
  | nil => rw [writeMembers, continued, List.foldr_nil]
  | cons member members ih =>
    rw [writeMembers, ih, continued, continued, List.foldr_cons, writeMember]

theorem write_array (item : Json) (items : List Json) :
    (array (item :: items)).write =
      fun rest => '[' :: item.write (continued write items ([] ++ ']' :: rest)) :=
  funext fun rest => by
    change '[' :: item.write (writeItems items (']' :: rest)) = _
    rw [writeItems_eq, List.nil_append]

theorem write_object (member : Option String × Json) (members : List (Option String × Json)) :
    (object (member :: members)).write =
      fun rest => '\x7b' :: writeMember member (continued writeMember members ([] ++ '}' :: rest)) :=
  funext fun rest => by
    change '\x7b' :: writeString member.1 (':' :: member.2.write (writeMembers members ('}' :: rest))) = _
    rw [writeMembers_eq, List.nil_append, writeMember]

/-- A line end and the blanks that the next line begins with. -/
def lineGap (depth : Nat) : List Char := '\n' :: List.replicate (2 * depth) ' '

theorem newLine_eq (depth : Nat) (rest : List Char) : newLine depth rest = lineGap depth ++ rest := rfl

theorem isSpace_of_mem_lineGap {depth : Nat} : ∀ c ∈ lineGap depth, isSpace c = true := by
  intro c member
  rcases List.mem_cons.1 member with rfl | within
  · rfl
  · obtain rfl := List.eq_of_mem_replicate within
    rfl

/-- An item on a line of its own. -/
def layOutItem (depth : Nat) (item : Json) (rest : List Char) : List Char :=
  lineGap depth ++ item.layOut depth rest

theorem layOutItems_eq (depth : Nat) (items : List Json) (rest : List Char) :
    layOutItems depth items rest = continued (layOutItem depth) items rest := by
  induction items with
  | nil => rw [layOutItems, continued, List.foldr_nil]
  | cons item items ih =>
    rw [layOutItems, ih, continued, continued, List.foldr_cons, layOutItem, newLine_eq]

/-- A member on a line of its own, with a blank after the colon. -/
def layOutMember (depth : Nat) (member : Option String × Json) (rest : List Char) : List Char :=
  lineGap depth ++ writeString member.1 (':' :: ' ' :: member.2.layOut depth rest)

theorem layOutMembers_eq (depth : Nat) (members : List (Option String × Json)) (rest : List Char) :
    layOutMembers depth members rest = continued (layOutMember depth) members rest := by
  induction members with
  | nil => rw [layOutMembers, continued, List.foldr_nil]
  | cons member members ih =>
    rw [layOutMembers, ih, continued, continued, List.foldr_cons, layOutMember, newLine_eq]

theorem layOut_array (depth : Nat) (item : Json) (items : List Json) :
    (array (item :: items)).layOut depth = fun rest => '[' :: layOutItem (depth + 1) item
      (continued (layOutItem (depth + 1)) items (lineGap depth ++ ']' :: rest)) :=
  funext fun rest => by rw [layOut, layOutItems_eq, layOutItem, newLine_eq, newLine_eq]

theorem layOut_object (depth : Nat) (member : Option String × Json)
    (members : List (Option String × Json)) :
    (object (member :: members)).layOut depth = fun rest => '\x7b' :: layOutMember (depth + 1) member
      (continued (layOutMember (depth + 1)) members (lineGap depth ++ '}' :: rest)) :=
  funext fun rest => by rw [layOut, layOutMembers_eq, layOutMember, newLine_eq, newLine_eq]

theorem ReadsBack.layOutItem {depth : Nat} {item : Json}
    (reads : ReadsBack (item.layOut depth) item) : ReadsBack (layOutItem depth item) item :=
  reads.indent isSpace_of_mem_lineGap

theorem ReadsBack.layOutMember {depth : Nat} {member : Option String × Json}
    (reads : ReadsBack (member.2.layOut depth) member.2) :
    MemberReadsBack (layOutMember depth member) member := by
  have blank : ∀ c ∈ [' '], isSpace c = true := by simp [isSpace]
  exact ((reads.indent blank).member member.1).indent isSpace_of_mem_lineGap

/-- Values in which no number has a fraction or an exponent. -/
inductive Readable : Json → Prop
  | null : Readable .null
  | bool (b : Bool) : Readable (.bool b)
  | integer (n : Int) : Readable (.integer n)
  | string (text : Option String) : Readable (.string text)
  | array {items : List Json} : (∀ item ∈ items, Readable item) → Readable (.array items)
  | object {members : List (Option String × Json)} :
      (∀ member ∈ members, Readable member.2) → Readable (.object members)

/-- By induction on the value: its text leads the reader to it and no further. -/
theorem Readable.readsBack {value : Json} (readable : Readable value) :
    ReadsBack value.write value := by
  induction readable with
  | null => exact fun _ frames _ => ⟨_, .complete _ frames, rfl⟩
  | bool b =>
    cases b with
    | true => exact fun _ frames _ => ⟨_, .complete _ frames, rfl⟩
    | false => exact fun _ frames _ => ⟨_, .complete _ frames, rfl⟩
  | integer n => exact readsBack_integer n
  | string text =>
    intro closable frames rest
    have opens : (⟨.value closable, frames⟩ : Reader).step '"' = some (.within .value [] frames) := rfl
    exact ⟨_, .complete _ frames, run_writeString opens text rest⟩
  | @array items _ each =>
    cases items with
    | nil => exact fun _ frames _ => ⟨_, .complete _ frames, rfl⟩
    | cons item items =>
      rw [write_array]
      exact readsBack_array (List.forall_mem_nil _) each
  | @object members _ each =>
    cases members with
    | nil => exact fun _ frames _ => ⟨_, .complete _ frames, rfl⟩
    | cons member members =>
      rw [write_object]
      exact readsBack_object (List.forall_mem_nil _) fun m inside => (each m inside).member m.1

/-- The same of the text that is laid out over lines. -/
theorem Readable.readsBack_layOut {value : Json} (readable : Readable value) (depth : Nat) :
    ReadsBack (value.layOut depth) value := by
  induction readable generalizing depth with
  | null => exact Readable.null.readsBack
  | bool b => exact (Readable.bool b).readsBack
  | integer n => exact readsBack_integer n
  | string text => exact (Readable.string text).readsBack
  | @array items _ each =>
    cases items with
    | nil => exact (Readable.array (List.forall_mem_nil _)).readsBack
    | cons item items =>
      rw [layOut_array]
      exact readsBack_array isSpace_of_mem_lineGap
        fun i inside => (each i inside (depth + 1)).layOutItem
  | @object members _ each =>
    cases members with
    | nil => exact (Readable.object (List.forall_mem_nil _)).readsBack
    | cons member members =>
      rw [layOut_object]
      exact readsBack_object isSpace_of_mem_lineGap
        fun m inside => (each m inside (depth + 1)).layOutMember

theorem ReadsBack.parse? {text : List Char → List Char} {value : Json} (reads : ReadsBack text value) :
    parse? (String.ofList (text [])) = some value := by
  obtain ⟨reader, holds, runs⟩ := reads false [] []
  have read : Reader.start.run (text []) = some reader := runs
  rw [Json.parse?, String.toList_ofList, read]
  exact holds.result?

/-- What has been written is read back. -/
theorem parse?_render {value : Json} (readable : Readable value) : parse? value.render = some value :=
  readable.readsBack.parse?

/-- What has been written over lines is read back. -/
theorem parse?_renderLines {value : Json} (readable : Readable value) :
    parse? value.renderLines = some value :=
  (readable.readsBack_layOut 0).parse?

end Subschema.Json
