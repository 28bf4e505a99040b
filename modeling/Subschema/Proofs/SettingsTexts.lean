import Subschema.Proofs.QuotedTexts
import Subschema.Settings.Writer
import Subschema.Toml.Reader

namespace Subschema.Toml

/-- Characters that do not start with what readers pass over between tokens. -/
def Solid (cs : List Char) : Prop :=
  ∃ c rest, cs = c :: rest ∧ isBlank c = false ∧ c ≠ '#' ∧ c ≠ '\n' ∧ c ≠ '\r'

theorem solid_cons {c : Char} (starts : isBlank c = false ∧ c ≠ '#' ∧ c ≠ '\n' ∧ c ≠ '\r')
    (rest : List Char) : Solid (c :: rest) :=
  ⟨c, rest, rfl, starts⟩

theorem Solid.skipBlanks {cs : List Char} (solid : Solid cs) : skipBlanks cs = cs := by
  obtain ⟨c, rest, rfl, blank, -⟩ := solid
  exact List.dropWhile_cons_of_neg (by simp [blank])

/-- Where a token starts there is nothing to pass over. -/
theorem Solid.skipLines {cs : List Char} (solid : Solid cs) (fuel : Nat) : skipLines fuel cs = cs := by
  cases fuel with
  | zero => rfl
  | succ fuel =>
    have blanks := solid.skipBlanks
    obtain ⟨c, rest, rfl, -, comment, line, carriage⟩ := solid
    have stays : skipComment (c :: rest) = c :: rest := by
      rw [skipComment]
      simp [comment]
    have none : afterBreak? (c :: rest) = none := by
      rw [afterBreak?.eq_def]
      split <;> simp_all
    simp only [Toml.skipLines, blanks, stays, none]

theorem skipLines_break (fuel : Nat) (cs : List Char) :
    skipLines (fuel + 1) ('\n' :: cs) = skipLines fuel cs := rfl

theorem skipLines_space (fuel : Nat) (cs : List Char) :
    skipLines (fuel + 1) (' ' :: cs) = skipLines (fuel + 1) cs := rfl

theorem solid_writeText (s : String) (rest : List Char) : Solid (writeText s rest) := by
  obtain ⟨c, more, same, rfl | rfl⟩ := writeText_starts s rest
  · exact same ▸ solid_cons (by decide) more
  · exact same ▸ solid_cons (by decide) more

theorem solid_bracket (rest : List Char) : Solid (']' :: rest) := solid_cons (by decide) rest

theorem solid_comma (rest : List Char) : Solid (',' :: rest) := solid_cons (by decide) rest

theorem readValue_writeText (s : String) (room fuel : Nat) {rest : List Char} (ends : Unquoted rest) :
    readValue room (fuel + 1) (writeText s rest) = some (.text s, rest) := by
  have read := readQuoted_writeText s ends
  obtain ⟨c, more, same, rfl | rfl⟩ := writeText_starts s rest <;>
  · rw [same] at read ⊢
    simp only [readValue, read, Option.map_some, String.ofList_toList]

section Items

variable {room fuel : Nat} {s : String} {cs rest : List Char}

theorem readItems_comma (next : skipLines (fuel + 2) cs = writeText s (',' :: rest)) :
    readItems room (fuel + 2) cs =
      (readItems room (fuel + 1) rest).map fun (items, rest) => (.text s :: items, rest) := by
  have value := readValue_writeText s room fuel
    (unquoted_cons (c := ',') (by decide) (by decide) rest)
  obtain ⟨c, more, same, quote⟩ := writeText_starts s (',' :: rest)
  have other : c ≠ ']' := by rintro rfl; simp at quote
  rw [same] at next value
  rw [readItems, next]
  cases read : readItems room (fuel + 1) rest <;>
    simp [other, value, (solid_comma rest).skipLines, read]

theorem readItems_last (next : skipLines (fuel + 2) cs = writeText s (']' :: rest)) :
    readItems room (fuel + 2) cs = some ([.text s], rest) := by
  have value := readValue_writeText s room fuel
    (unquoted_cons (c := ']') (by decide) (by decide) rest)
  obtain ⟨c, more, same, quote⟩ := writeText_starts s (']' :: rest)
  have other : c ≠ ']' := by rintro rfl; simp at quote
  rw [same] at next value
  rw [readItems, next]
  simp [other, value, (solid_bracket rest).skipLines]

theorem readItems_none (next : skipLines (fuel + 1) cs = ']' :: rest) :
    readItems room (fuel + 1) cs = some ([], rest) := by
  rw [readItems, next]
  rfl

end Items

/-- An array is read item by item, and each item is a text that has been written on a line of its own. -/
theorem readItems_writeItems (texts : List String) (room : Nat) {fuel : Nat} (enough : texts.length < fuel)
    (rest : List Char) :
    readItems room fuel ('\n' :: writeItems texts (']' :: rest)) = some (texts.map .text, rest) := by
  induction texts generalizing fuel with
  | nil =>
    obtain ⟨fuel, rfl⟩ : ∃ n, fuel = n + 1 := ⟨fuel - 1, by omega⟩
    refine readItems_none ?_
    rw [writeItems, skipLines_break, (solid_bracket rest).skipLines]
  | cons s texts ih =>
    obtain ⟨fuel, rfl⟩ : ∃ n, fuel = n + 2 := ⟨fuel - 2, by simp at enough; omega⟩
    have item : skipLines (fuel + 2) ('\n' :: writeItems (s :: texts) (']' :: rest)) =
        writeText s (',' :: '\n' :: writeItems texts (']' :: rest)) := by
      rw [writeItems, skipLines_break]
      simp only [skipLines_space, (solid_writeText s _).skipLines]
    rw [readItems_comma item, ih (by simpa using enough)]
    rfl

/-- What is written for a value stands before the end of a line, and leads a reader with enough fuel
there. -/
structure Spells (write : List Char → List Char) (value : Toml) (fuel : Nat) : Prop where
  solid : ∀ rest, Solid (write rest)
  reads : ∀ more, fuel ≤ more → ∀ rest,
    readValue (nestingLimit - 1) more (write ('\n' :: rest)) = some (value, '\n' :: rest)

theorem spells_text (s : String) : Spells (writeText s) (.text s) 1 where
  solid := solid_writeText s
  reads more enough rest := by
    obtain ⟨fuel, rfl⟩ : ∃ n, more = n + 1 := ⟨more - 1, by omega⟩
    exact readValue_writeText s _ fuel (unquoted_cons (by decide) (by decide) rest)

theorem spells_bool (b : Bool) : Spells (writeBool b) (.boolean b) 1 where
  solid rest := by
    cases b
    · exact solid_cons (c := 'f') (by decide) _
    · exact solid_cons (c := 't') (by decide) _
  reads more enough rest := by
    obtain ⟨fuel, rfl⟩ : ∃ n, more = n + 1 := ⟨more - 1, by omega⟩
    cases b <;> rfl

/-- A list of texts costs a round for each of its items. -/
theorem spells_texts (texts : List String) :
    Spells (writeTexts texts) (.array (texts.map .text)) (texts.length + 3) where
  solid rest := by
    unfold writeTexts
    split <;> exact solid_cons (by decide) _
  reads more enough rest := by
    obtain ⟨fuel, rfl⟩ : ∃ n, more = n + 3 := ⟨more - 3, by omega⟩
    have array (items : List Char) (read : readItems (nestingLimit - 2) (fuel + 2) items =
          some (texts.map .text, '\n' :: rest)) :
        readValue (nestingLimit - 1) (fuel + 3) ('[' :: items) =
          some (.array (texts.map .text), '\n' :: rest) := by
      rw [readValue, if_neg (by decide), show nestingLimit - 1 - 1 = nestingLimit - 2 from rfl, read]
      rfl
    match texts with
    | [] => exact array _ (readItems_none ((solid_bracket _).skipLines _))
    | [s] => exact array _ (readItems_last ((solid_writeText s _).skipLines _))
    | first :: second :: others =>
      exact array _ (readItems_writeItems _ _ (by omega) ('\n' :: rest))

/-- A key that needs no quotes. -/
structure IsName (name : List Char) : Prop where
  some : name ≠ []
  chars : ∀ c ∈ name, isKeyChar c = true

theorem isName_of_all {name : List Char} (whole : (!name.isEmpty && name.all isKeyChar) = true) :
    IsName name := by
  obtain ⟨some, chars⟩ := Bool.and_eq_true_iff.1 whole
  exact ⟨by simpa using some, List.all_eq_true.1 chars⟩

theorem ne_of_isKeyChar {c d : Char} (key : isKeyChar c = true) (other : isKeyChar d = false) : c ≠ d := by
  rintro rfl
  simp [key] at other

theorem IsName.solid {name : List Char} (whole : IsName name) (rest : List Char) : Solid (name ++ rest) := by
  obtain ⟨c, cs, rfl⟩ := List.exists_cons_of_ne_nil whole.some
  have key := whole.chars c List.mem_cons_self
  refine ⟨c, cs ++ rest, rfl, ?_, ne_of_isKeyChar key (by decide), ne_of_isKeyChar key (by decide),
    ne_of_isKeyChar key (by decide)⟩
  simp [isBlank, ne_of_isKeyChar key (show isKeyChar ' ' = false by decide),
    ne_of_isKeyChar key (show isKeyChar '\t' = false by decide)]

theorem IsName.ne_bracket {name : List Char} (whole : IsName name) (rest more : List Char) :
    name ++ rest ≠ '[' :: more := by
  obtain ⟨c, cs, rfl⟩ := List.exists_cons_of_ne_nil whole.some
  intro same
  exact ne_of_isKeyChar (whole.chars c List.mem_cons_self) (by decide) (List.cons.inj same).1

/-- A key ends where a blank or a bracket comes, and none follows if no dot does. -/
theorem IsName.readKey {name : List Char} (whole : IsName name) (fuel : Nat) (c : Char) (cs : List Char)
    {d : Char} {rest : List Char} (stops : isKeyChar c = false) (next : skipBlanks (c :: cs) = d :: rest)
    (alone : d ≠ '.') :
    readKey (fuel + 1) (name ++ c :: cs) = .some ([], String.ofList name, d :: rest) := by
  have here : (name ++ c :: cs).takeWhile isKeyChar = name := by
    rw [List.takeWhile_append_of_pos whole.chars, List.takeWhile_cons_of_neg (by simp [stops]),
      List.append_nil]
  have after : (name ++ c :: cs).dropWhile isKeyChar = c :: cs := by
    rw [List.dropWhile_append_of_pos whole.chars, List.dropWhile_cons_of_neg (by simp [stops])]
  have part : readKeyPart (skipBlanks (name ++ c :: cs)) = .some (String.ofList name, c :: cs) := by
    rw [(whole.solid _).skipBlanks]
    unfold readKeyPart
    simp [here, after, whole.some]
  rw [Toml.readKey, readKeyParts]
  simp [part, next, alone, nestingLimit]

theorem endLine_break (rest : List Char) : endLine ('\n' :: rest) = some rest := rfl

/-- A line is read by itself. -/
theorem readStatements_line {cs rest : List Char} (solid : Solid cs) {fuel : Nat} {draft next : Draft}
    (statement : readStatement (fuel + 1) draft cs = some (next, '\n' :: rest)) :
    readStatements (fuel + 1) draft cs = readStatements fuel next rest := by
  rw [readStatements, solid.skipLines]
  obtain ⟨c, more, rfl, -⟩ := solid
  simp [statement, endLine_break]

theorem solid_writeHeader (name : String) (rest : List Char) : Solid (writeHeader name rest) :=
  solid_cons (c := '[') (by decide) _

/-- A header leads the reader to the table that it was written for. -/
theorem readStatements_header {name : String} (whole : IsName name.toList) {draft : Draft} {root : Toml}
    (opens : addTable name draft.root = some root) (fuel : Nat) (rest : List Char) :
    readStatements (fuel + 1) draft (writeHeader name rest) =
      readStatements fuel ⟨root, [name]⟩ rest := by
  have key := whole.readKey fuel ']' ('\n' :: rest) (by decide) rfl (by decide)
  refine readStatements_line (solid_writeHeader name rest) ?_
  rw [writeHeader, readStatement]
  · simp [readHeader, key, Text.expect, alterAt, opens]
  · exact whole.ne_bracket _

/-- An assignment puts its value into the table that is open. -/
theorem readStatements_assignment {key : String} (whole : IsName key.toList)
    {write : List Char → List Char} {value : Toml} {cost fuel : Nat} (spells : Spells write value cost)
    (enough : cost ≤ fuel + 1) {draft : Draft} {root : Toml}
    (assigns : assignBelow draft.header [] key value draft.root = some root) (rest : List Char) :
    readStatements (fuel + 1) draft (writeAssignment key write rest) =
      readStatements fuel { draft with root } rest := by
  have name := whole.readKey fuel ' ' ('=' :: ' ' :: write ('\n' :: rest)) (by decide) rfl (by decide)
  have blank : skipBlanks (' ' :: write ('\n' :: rest)) = write ('\n' :: rest) :=
    (spells.solid _).skipBlanks
  have solid : Solid (writeAssignment key write rest) := whole.solid _
  refine readStatements_line solid ?_
  rw [writeAssignment, readStatement]
  · simp [readAssignment, name, Text.expect, blank, spells.reads _ enough, assigns]
  · exact fun more => whole.ne_bracket _ _
  · exact whole.ne_bracket _

theorem readStatements_nil (fuel : Nat) (draft : Draft) :
    readStatements (fuel + 1) draft [] = some draft.root := rfl

theorem readStatements_break (fuel : Nat) (draft : Draft) {cs : List Char} (solid : Solid cs) :
    readStatements (fuel + 1) draft ('\n' :: cs) = readStatements (fuel + 1) draft cs := by
  rw [readStatements, readStatements, skipLines_break, solid.skipLines, solid.skipLines]

theorem length_le_writeChar (c : Char) (rest : List Char) : rest.length ≤ (writeChar c rest).length := by
  cases written c with
  | letter _ _ same => simp [same]; omega
  | number _ _ _ same => simp [same]; omega
  | plain _ _ _ same => simp [same]

theorem length_le_foldr_writeChar (cs rest : List Char) : rest.length ≤ (cs.foldr writeChar rest).length := by
  induction cs with
  | nil => exact Nat.le_refl _
  | cons c cs ih => exact Nat.le_trans ih (length_le_writeChar c _)

theorem length_le_writeLines (quotes : Nat) (cs rest : List Char) :
    rest.length ≤ (writeLines quotes cs rest).length := by
  induction cs generalizing quotes with
  | nil => exact Nat.le_refl _
  | cons c cs ih =>
    rw [writeLines]
    split
    · split
      · exact Nat.le_trans (ih 0) (by simp; omega)
      · exact Nat.le_trans (ih (quotes + 1)) (by simp)
    split
    · exact Nat.le_trans (ih 0) (by simp)
    · exact Nat.le_trans (ih 0) (length_le_writeChar c _)

/-- Nothing is written in front of the rest without making the whole longer. -/
theorem length_le_writeText (s : String) (rest : List Char) : rest.length ≤ (writeText s rest).length := by
  have lead (body : List Char) : body.length ≤ (leadBreak s.toList body).length := by
    unfold leadBreak
    split <;> simp
  dsimp only [writeText]
  split
  · have body := length_le_foldr_writeChar s.toList ('"' :: rest)
    simp only [List.length_cons] at body ⊢
    omega
  · simp; omega
  · have body := Nat.le_trans (length_le_writeLines 0 s.toList ('"' :: '"' :: '"' :: rest)) (lead _)
    simp only [List.length_cons] at body ⊢
    omega
  · have body := lead (s.toList ++ '\'' :: '\'' :: '\'' :: rest)
    simp only [List.length_cons, List.length_append] at body ⊢
    omega

theorem length_le_writeItems (texts : List String) (rest : List Char) :
    texts.length + rest.length ≤ (writeItems texts rest).length := by
  induction texts with
  | nil => simp [writeItems]
  | cons s texts ih =>
    have item := length_le_writeText s (',' :: '\n' :: writeItems texts rest)
    simp only [writeItems, List.length_cons] at item ⊢
    omega

theorem length_le_writeTexts (texts : List String) (rest : List Char) :
    texts.length + rest.length ≤ (writeTexts texts rest).length := by
  match texts with
  | [] => simp [writeTexts]; omega
  | [s] =>
    have item := length_le_writeText s (']' :: rest)
    simp only [writeTexts, List.length_cons, List.length_nil] at item ⊢
    omega
  | first :: second :: others =>
    have items := length_le_writeItems (first :: second :: others) (']' :: rest)
    simp only [writeTexts, List.length_cons] at items ⊢
    omega

theorem length_le_writeHeader (name : String) {n : Nat} {rest : List Char} (more : n ≤ rest.length) :
    n + 3 ≤ (writeHeader name rest).length := by
  simp only [writeHeader, List.length_cons, List.length_append]
  omega

theorem length_le_writeAssignment (key : String) {write : List Char → List Char} {m n : Nat}
    (grows : ∀ rest, m + rest.length ≤ (write rest).length) {rest : List Char} (more : n ≤ rest.length) :
    m + n + 4 ≤ (writeAssignment key write rest).length := by
  have value := grows ('\n' :: rest)
  simp only [writeAssignment, List.length_cons, List.length_append] at value ⊢
  omega

end Subschema.Toml

namespace Subschema.Settings

open Toml

/-- What the text of a settings file spells. -/
def document (settings : Settings) : Toml :=
  .table .headed
    [("registry", .table .headed [("forward_references", .text settings.policy.tag)]),
     ("loader", .table .headed
        [("paths", .array (settings.load.paths.map .text)),
         ("include_core", .boolean settings.load.includeCore),
         ("skip_prefixes", .array (settings.load.skipPrefixes.map .text))]),
     ("logging", .table .headed [("filter", .text settings.filter)])]

/-- The length of a document is fuel enough for its arrays. -/
theorem length_le_write (settings : Settings) :
    settings.load.paths.length + settings.load.skipPrefixes.length + 8 ≤ settings.write.length := by
  have text (s : String) (rest : List Char) : 0 + rest.length ≤ (writeText s rest).length := by
    simpa using length_le_writeText s rest
  have bool (b : Bool) (rest : List Char) : 0 + rest.length ≤ (writeBool b rest).length := by
    simp [writeBool]
  have newline {n : Nat} {rest : List Char} (more : n ≤ rest.length) : n ≤ ('\n' :: rest).length :=
    Nat.le_succ_of_le more
  have logging := length_le_writeHeader "logging" <|
    length_le_writeAssignment "filter" (text settings.filter) (Nat.zero_le ([] : List Char).length)
  have loader := length_le_writeHeader "loader" <|
    length_le_writeAssignment "paths" (length_le_writeTexts settings.load.paths) <|
    length_le_writeAssignment "include_core" (bool settings.load.includeCore) <|
    length_le_writeAssignment "skip_prefixes" (length_le_writeTexts settings.load.skipPrefixes) <|
    newline logging
  have whole := length_le_writeHeader "registry" <|
    length_le_writeAssignment "forward_references" (text settings.policy.tag) <| newline loader
  exact Nat.le_trans (by omega) whole

/-- Line by line, the document of the settings is read from their file. -/
theorem parse?_render (settings : Settings) : Toml.parse? settings.render = some settings.document := by
  have long := settings.length_le_write
  have mark : dropMark settings.render.toList = settings.write := by
    rw [render, String.toList_ofList]
    rfl
  -- Each of the three headers and five assignments takes one from the fuel, and so does the end.
  obtain ⟨fuel, enough⟩ : ∃ n, 2 * settings.write.length + 2 = n + 9 :=
    ⟨2 * settings.write.length - 7, by omega⟩
  rw [Toml.parse?, mark, render, String.length_ofList, enough, write,
    readStatements_header (isName_of_all rfl) rfl,
    readStatements_assignment (isName_of_all rfl) (spells_text _) (by omega) rfl,
    readStatements_break _ _ (solid_writeHeader _ _), readStatements_header (isName_of_all rfl) rfl,
    readStatements_assignment (isName_of_all rfl) (spells_texts _) (by omega) rfl,
    readStatements_assignment (isName_of_all rfl) (spells_bool _) (by omega) rfl,
    readStatements_assignment (isName_of_all rfl) (spells_texts _) (by omega) rfl,
    readStatements_break _ _ (solid_writeHeader _ _), readStatements_header (isName_of_all rfl) rfl,
    readStatements_assignment (isName_of_all rfl) (spells_text _) (by omega) rfl, readStatements_nil]
  rfl

end Subschema.Settings
