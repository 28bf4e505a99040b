import Subschema.Bundle
import Subschema.Proofs.JsonText

namespace Subschema

namespace Json

/-- A record is read by the names of its fields. Each of them is written once, so that the order of
the fields and those left out do not matter. -/
theorem record?_record (size : Nat) (members : List (String × Json)) :
    (record members).record? size = some (.named members) := by
  have keyed : (members.map fun member => (some member.1, member.2)).mapM
      (fun (member : Option String × Json) => member.1.map fun key => (key, member.2)) =
        some members := by
    induction members with
    | nil => rfl
    | cons member members ih =>
      rw [List.map_cons, List.mapM_cons, ih]
      rfl
  rw [record, record?, keyed]
  rfl

/-- A list is read back if each of its items is. -/
theorem list?_map {α : Type} {write : α → Json} {read? : Json → Option α}
    (back : ∀ a, read? (write a) = some a) (items : List α) :
    list? read? (.array (items.map write)) = some items := by
  rw [list?]
  induction items with
  | nil => rfl
  | cons item items ih =>
    rw [List.map_cons, List.mapM_cons, back, ih]
    rfl

theorem text?_text (s : String) : text? (text s) = some s := rfl

theorem nullable?_text (s : String) : nullable? text? (text s) = some (some s) := rfl

theorem list?_texts (ss : List String) : list? text? (texts ss) = some ss := list?_map text?_text ss

theorem readable_text (s : String) : Readable (text s) := .string (some s)

theorem readable_map {α : Type} {write : α → Json} (each : ∀ a, Readable (write a)) (items : List α) :
    Readable (.array (items.map write)) := by
  refine .array fun item member => ?_
  obtain ⟨a, _, rfl⟩ := List.mem_map.1 member
  exact each a

theorem readable_texts (ss : List String) : Readable (texts ss) := readable_map readable_text ss

theorem readable_record {members : List (String × Json)}
    (each : ∀ member ∈ members, Readable member.2) : Readable (record members) := by
  refine .object fun member inside => ?_
  obtain ⟨own, among, rfl⟩ := List.mem_map.1 inside
  exact each own among

end Json

open Json

theorem Entry.ofJson?_toJson (entry : Entry) : Entry.ofJson? entry.toJson = some entry := by
  obtain ⟨oid, names, superiors, description, obsolete⟩ := entry
  rw [Entry.ofJson?, Entry.toJson, record?_record]
  cases description with
  | none =>
    simp [descriptionMember, Record.required?, Record.defaulted?, Record.field?, list?_texts,
      text?_text, bool?]
  | some description =>
    simp [descriptionMember, Record.required?, Record.defaulted?, Record.field?, list?_texts,
      text?_text, nullable?_text, bool?]

theorem Document.ofJson?_toJson (document : Document) :
    Document.ofJson? document.toJson = some document := by
  obtain ⟨name, classes, types⟩ := document
  have back := list?_map Entry.ofJson?_toJson
  rw [Document.ofJson?, Document.toJson, record?_record]
  cases name with
  | none => simp [Record.defaulted?, Record.field?, nullable?, back]
  | some name => simp [Record.defaulted?, Record.field?, nullable?_text, back]

theorem readable_descriptionMember (description : Option String) :
    ∀ member ∈ descriptionMember description, Readable member.2 := by
  cases description with
  | none => simp [descriptionMember]
  | some description => simp [descriptionMember, readable_text]

theorem Entry.readable_toJson (entry : Entry) : Readable entry.toJson := by
  refine readable_record ?_
  simp only [List.forall_mem_append, List.forall_mem_cons]
  exact ⟨⟨⟨readable_text _, readable_texts _, readable_texts _, by simp⟩,
    readable_descriptionMember _⟩, .bool _, by simp⟩

/-- The value of a document has no object in it that names a field twice, and no text that has to be
written in pieces. -/
theorem Document.readable_toJson (document : Document) : Readable document.toJson := by
  have named : Readable (document.name.elim .null text) := by
    cases document.name with
    | none => exact .null
    | some name => exact readable_text name
  refine readable_record ?_
  simp only [List.forall_mem_cons]
  exact ⟨named, readable_map Entry.readable_toJson _, readable_map Entry.readable_toJson _, by simp⟩

/-- A document that is written as a text is read back from it. -/
theorem Document.read?_render (document : Document) :
    Document.read? document.toJson.render = some document := by
  rw [Document.read?, parse?_render document.readable_toJson, Option.bind_some,
    Document.ofJson?_toJson]

end Subschema
