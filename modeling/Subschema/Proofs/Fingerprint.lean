import Subschema.Proofs.Documents
import Subschema.Proofs.JsonText

namespace Subschema

namespace Json

/-- After a value that stands by itself only blanks are read, and they change nothing. -/
theorem Reader.run_complete {value : Json} {reader : Reader} {cs : List Char}
    (runs : (⟨.complete value, []⟩ : Reader).run cs = some reader) :
    (∀ c ∈ cs, isSpace c = true) ∧ reader = ⟨.complete value, []⟩ := by
  induction cs with
  | nil => exact ⟨List.forall_mem_nil _, (Option.some.inj runs).symm⟩
  | cons c cs ih =>
    by_cases space : isSpace c = true
    · rw [run_cons (rests_complete value [] c space)] at runs
      obtain ⟨later, same⟩ := ih runs
      exact ⟨List.forall_mem_cons.2 ⟨space, later⟩, same⟩
    · have refused : (⟨.complete value, []⟩ : Reader).step c = none := by
        simp [step, afterValue.eq_def, space]
      rw [run, List.foldlM_cons, refused] at runs
      cases runs

theorem NumberScan.record?_of_value? {scan : NumberScan} {value : Json} (ends : scan.value? = some value)
    (size : Nat) : value.record? size = none := by
  unfold value? at ends
  split at ends
  · split at ends
    all_goals
      cases ends
      rfl
  · cases ends
    rfl
  · cases ends
    rfl
  · cases ends
    rfl
  · cases ends

/-- A text that spells a record leaves no doubt that it is complete. -/
theorem run_eq_complete {s : String} {value : Json} {size : Nat} {record : Record}
    (parses : parse? s = some value) (taken : value.record? size = some record) :
    Reader.start.run s.toList = some ⟨.complete value, []⟩ := by
  obtain ⟨⟨mode, frames⟩, runs, result⟩ := Option.bind_eq_some_iff.1 parses
  unfold Reader.result? at result
  split at result
  · rename_i ends alone
    cases ends
    cases alone
    cases result
    exact runs
  · rw [NumberScan.record?_of_value? result] at taken
    cases taken
  · cases result

end Json

open Json

/-- A text, as characters, from which a document is read. -/
def Spells (cs : List Char) (document : Document) : Prop :=
  ∃ value, Reader.start.run cs = some ⟨.complete value, []⟩ ∧ Document.ofJson? value = some document

theorem spells_of_read? {text : String} {document : Document}
    (reads : Document.read? text = some document) : Spells text.toList document := by
  obtain ⟨value, parses, decodes⟩ := Option.bind_eq_some_iff.1 reads
  obtain ⟨record, taken, _⟩ := Option.bind_eq_some_iff.1 decodes
  exact ⟨value, run_eq_complete parses taken, decodes⟩

theorem Spells.indent {cs gap : List Char} {document : Document} (spells : Spells cs document)
    (blank : ∀ c ∈ gap, isSpace c = true) : Spells (gap ++ cs) document := by
  obtain ⟨value, runs, decodes⟩ := spells
  exact ⟨value, ((rests_value false []).run blank cs).trans runs, decodes⟩

theorem Spells.not_blank {cs : List Char} {document : Document} (spells : Spells cs document) :
    ¬ ∀ c ∈ cs, isSpace c = true := by
  intro blank
  obtain ⟨value, runs, _⟩ := spells
  have waits := (rests_value false []).run blank []
  rw [List.append_nil] at waits
  cases waits.symm.trans runs

/-- No text of a document begins with the text of another, and what it may have more than another text of
the same document are blanks. -/
theorem Spells.delimits {cs rest : List Char} {document other : Document}
    (spells : Spells cs document) (longer : Spells (cs ++ rest) other) :
    document = other ∧ ∀ c ∈ rest, isSpace c = true := by
  obtain ⟨value, runs, decodes⟩ := spells
  obtain ⟨again, whole, reads⟩ := longer
  rw [Reader.run_append, runs, Option.bind_some] at whole
  obtain ⟨blank, same⟩ := Reader.run_complete whole
  cases same
  exact ⟨Option.some.inj (decodes.symm.trans reads), blank⟩

theorem eq_nil_of_blank {texts : List (List Char)} {documents : List Document}
    (spell : List.Forall₂ Spells texts documents) (blank : ∀ c ∈ texts.flatten, isSpace c = true) :
    documents = [] := by
  cases spell with
  | nil => rfl
  | cons first _ => exact absurd (fun c member => blank c (List.mem_append_left _ member)) first.not_blank

-- By induction on the one list of texts. Where its first text ends, the other one has ended, or goes on
-- with blanks; the blanks that are left over stand before the next text, on either side.
/-- Texts that spell documents can be told apart in what they make up together: each ends with the
bracket that closes its outermost container, but for blanks. -/
theorem documents_unique {texts others : List (List Char)} {documents found : List Document}
    (one : List.Forall₂ Spells texts documents) (two : List.Forall₂ Spells others found)
    {gap space : List Char} (blank : ∀ c ∈ gap, isSpace c = true)
    (empty : ∀ c ∈ space, isSpace c = true)
    (joined : gap ++ texts.flatten = space ++ others.flatten) : documents = found := by
  induction one generalizing others found gap space with
  | nil =>
    refine (eq_nil_of_blank two fun c member => blank c ?_).symm
    rw [List.flatten_nil, List.append_nil] at joined
    exact joined ▸ List.mem_append_right space member
  | @cons text document texts documents first later ih =>
    cases two with
    | nil =>
      rw [List.flatten_nil, List.append_nil] at joined
      exact eq_nil_of_blank (.cons first later) fun c member =>
        empty c (joined ▸ List.mem_append_right gap member)
    | @cons other known others found opening rest =>
      have begins := first.indent blank
      have starts := opening.indent empty
      rw [List.flatten_cons, List.flatten_cons, ← List.append_assoc, ← List.append_assoc] at joined
      rcases List.append_eq_append_iff.1 joined with ⟨more, longer, onward⟩ | ⟨more, longer, onward⟩
      · obtain ⟨rfl, left⟩ := begins.delimits (longer ▸ starts)
        rw [ih rest (List.forall_mem_nil _) left onward]
      · obtain ⟨rfl, left⟩ := starts.delimits (longer ▸ begins)
        rw [ih rest left (List.forall_mem_nil _) onward.symm]

theorem toList_loop (bytes : ByteArray) (i : Nat) (before : List UInt8) :
    ByteArray.toList.loop bytes i before = before.reverse ++ bytes.data.toList.drop i := by
  fun_induction ByteArray.toList.loop bytes i before with
  | case1 i before inside ih =>
    have within : i < bytes.data.toList.length := inside
    have byte : bytes.get! i = bytes.data.toList[i] := by
      rw [ByteArray.get!, Array.getElem_toList, getElem!_pos bytes.data i inside]
    rw [ih, byte, List.reverse_cons, List.append_assoc, List.drop_eq_getElem_cons within]
    rfl
  | case2 i before outside =>
    have past : bytes.data.toList.length ≤ i := Nat.le_of_not_lt outside
    rw [List.drop_eq_nil_of_le past, List.append_nil]

theorem toList_toUTF8 (s : String) : s.toUTF8.toList = s.toByteArray.data.toList := by
  rw [String.toUTF8_eq_toByteArray, ByteArray.toList, toList_loop]
  rfl

theorem toList_toUTF8_inj {s t : String} : s.toUTF8.toList = t.toUTF8.toList ↔ s = t := by
  rw [toList_toUTF8, toList_toUTF8, Array.toList_inj, ← ByteArray.ext_iff, String.toByteArray_inj]

theorem toList_toUTF8_join (texts : List String) :
    (String.join texts).toUTF8.toList = texts.flatMap fun text => text.toUTF8.toList := by
  induction texts with
  | nil =>
    rw [toList_toUTF8]
    rfl
  | cons text texts ih =>
    rw [String.join_cons, List.flatMap_cons, ← ih, toList_toUTF8, toList_toUTF8, toList_toUTF8,
      String.toByteArray_append, ByteArray.toList_data_append]

/-- Two messages that cannot be told apart by their hashes. -/
def Sha256.Collide (message other : List UInt8) : Prop :=
  message ≠ other ∧ Sha256.hexDigest message = Sha256.hexDigest other

namespace Bundle

/-- All texts of a bundle, back to back. -/
def text (bundle : Bundle) : String := String.join (bundle.sources.map Prod.snd)

/-- The texts are hashed back to back. -/
theorem fingerprint_eq (bundle : Bundle) :
    bundle.fingerprint = Sha256.hexDigest bundle.text.toUTF8.toList := by
  rw [fingerprint, text, toList_toUTF8_join, List.flatMap_map]

theorem spells_documents {bundle : Bundle} {documents : List (String × Document)}
    (decoded : bundle.documents = .ok documents) :
    List.Forall₂ Spells (bundle.sources.map fun source => source.2.toList)
      (documents.map Prod.snd) := by
  rw [List.forall₂_map_left_iff, List.forall₂_map_right_iff]
  refine (mapM_eq_ok_iff.1 decoded).imp ?_
  rintro ⟨origin, text⟩ found reads
  cases run : Document.read? text with
  | none => simp [run] at reads
  | some document =>
    simp only [run, Except.ok.injEq] at reads
    cases reads
    exact spells_of_read? run

theorem documents_eq_of_text_eq {bundle other : Bundle} {documents found : List (String × Document)}
    (decoded : bundle.documents = .ok documents) (also : other.documents = .ok found)
    (same : bundle.text = other.text) : documents.map Prod.snd = found.map Prod.snd := by
  have joined : ∀ bundle : Bundle,
      bundle.text.toList = (bundle.sources.map fun source => source.2.toList).flatten := by
    intro bundle
    rw [text, String.toList_join, List.flatMap_map, List.flatMap_def]
  refine documents_unique (spells_documents decoded) (spells_documents also)
    (List.forall_mem_nil _) (List.forall_mem_nil _) ?_
  rw [← joined, ← joined, same]

theorem entries_eq_of_documents_eq {documents found : List (String × Document)}
    (same : documents.map Prod.snd = found.map Prod.snd) (kind : Kind) :
    entries documents kind = entries found kind := by
  have through : ∀ documents : List (String × Document), entries documents kind =
      (documents.map Prod.snd).flatMap fun document => document.entries kind := by
    intro documents
    rw [List.flatMap_map]
    rfl
  rw [through, through, same]

theorem names_eq_of_documents_eq {documents found : List (String × Document)}
    (same : documents.map Prod.snd = found.map Prod.snd) :
    (documents.filterMap fun (_, document) => document.name) =
      found.filterMap fun (_, document) => document.name := by
  have through : ∀ documents : List (String × Document),
      (documents.filterMap fun (_, document) => document.name) =
        (documents.map Prod.snd).filterMap Document.name := by
    intro documents
    rw [List.filterMap_map]
    rfl
  rw [through, through, same]

/-- Bundles whose texts make up the same text hold the same documents in the same order, wherever one text
ends and the next begins. Bundles of one fingerprint therefore give the same definitions and the same names
of schemas, unless their texts collide. -/
theorem fingerprint_unambiguous {bundle other : Bundle} {documents found : List (String × Document)}
    (decoded : bundle.documents = .ok documents) (also : other.documents = .ok found) :
    (bundle.text = other.text → bundle.sources.length = other.sources.length ∧
      documents.map Prod.snd = found.map Prod.snd) ∧
    (bundle.fingerprint = other.fingerprint →
      Sha256.Collide bundle.text.toUTF8.toList other.text.toUTF8.toList ∨
        (∀ kind batch, definitions documents kind = .ok batch ↔ definitions found kind = .ok batch) ∧
        (documents.filterMap fun (_, document) => document.name) =
          found.filterMap fun (_, document) => document.name) := by
  constructor
  · intro same
    have alike := documents_eq_of_text_eq decoded also same
    have counts := (spells_documents decoded).length_eq
    rw [alike, ← (spells_documents also).length_eq, List.length_map, List.length_map] at counts
    exact ⟨counts, alike⟩
  · intro hashes
    rw [fingerprint_eq, fingerprint_eq] at hashes
    by_cases bytes : bundle.text.toUTF8.toList = other.text.toUTF8.toList
    · have alike := documents_eq_of_text_eq decoded also (toList_toUTF8_inj.1 bytes)
      refine Or.inr ⟨fun kind batch => ?_, names_eq_of_documents_eq alike⟩
      rw [definitions_eq_ok_iff, definitions_eq_ok_iff, entries_eq_of_documents_eq alike kind]
    · exact Or.inl ⟨bytes, hashes⟩

end Bundle

/-- Two documents, with blanks at the end of the first. -/
def Sample.blanksBefore : Bundle :=
  { sources := [("a.json", "[\"corp\"] \n"), ("b.json", "[\"lab\", [[\"1.2\"]]]")] }

/-- The same text, with the blanks at the beginning of the second document. -/
def Sample.blanksAfter : Bundle :=
  { sources := [("c.json", "[\"corp\"]"), ("d.json", " \n[\"lab\", [[\"1.2\"]]]")] }

/-- The blanks between two documents can stand in the first text or in the second. -/
theorem Bundle.fingerprint_unambiguous_blanks :
    ∃ documents found, Sample.blanksBefore.documents = .ok documents ∧
      Sample.blanksAfter.documents = .ok found ∧
      Sample.blanksBefore.text = Sample.blanksAfter.text ∧
      documents.map Prod.snd = found.map Prod.snd := by
  have first : Sample.blanksBefore.documents = .ok [("a.json", { name := some "corp" }),
      ("b.json", { name := some "lab", objectClasses := [{ oid := "1.2" }] })] := by decide +kernel
  have second : Sample.blanksAfter.documents = .ok [("c.json", { name := some "corp" }),
      ("d.json", { name := some "lab", objectClasses := [{ oid := "1.2" }] })] := by decide +kernel
  have same : Sample.blanksBefore.text = Sample.blanksAfter.text := by decide +kernel
  exact ⟨_, _, first, second, same, ((fingerprint_unambiguous first second).1 same).2⟩

end Subschema
