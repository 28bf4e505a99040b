import Subschema.Encoding.Compare
import Subschema.Proofs.Encoding
import Subschema.Proofs.Spelling

namespace Subschema

open Json

/-- An identifier is written in its one spelling, which is read as it. -/
theorem Oid.ofJson?_text (oid : Oid) : Oid.ofJson? (Json.text oid.text) = some oid := by
  rw [Oid.ofJson?, text?_text, Option.bind_some, Oid.parse_text]
  rfl

theorem Kind.ofJson?_toJson (kind : Kind) : Kind.ofJson? kind.toJson = some kind := by
  cases kind with
  | objectClass => rfl
  | attributeType => rfl

/-- A description that is absent is left out, and one that is there is written even if it is empty.
-/
theorem Definition.ofJson?_toJson (d : Definition) : Definition.ofJson? d.toJson = some d := by
  obtain ⟨oid, kind, names, superiors, description, obsolete⟩ := d
  rw [Definition.ofJson?, Definition.toJson, record?_record]
  cases description with
  | none =>
    simp [descriptionMember, Record.required?, Record.defaulted?, Record.field?, list?_texts, bool?,
      Oid.ofJson?_text, Kind.ofJson?_toJson]
  | some description =>
    simp [descriptionMember, Record.required?, Record.defaulted?, Record.field?, list?_texts, bool?,
      Oid.ofJson?_text, Kind.ofJson?_toJson, nullable?_text]

theorem Definition.readable_toJson (d : Definition) : Readable d.toJson := by
  refine readable_record ?_
  simp only [List.forall_mem_append, List.forall_mem_cons]
  exact ⟨⟨⟨readable_text _, readable_text _, readable_texts _, readable_texts _, by simp⟩,
    readable_descriptionMember _⟩, .bool _, by simp⟩

theorem byteOfJson?_integer (b : UInt8) : byteOfJson? (.integer b.toNat) = some b := by
  have range : 0 ≤ (b.toNat : Int) ∧ (b.toNat : Int) < 256 := by
    have bound := b.toNat_lt
    omega
  rw [byteOfJson?, integer?, Option.bind_some, if_pos range, Int.toNat_natCast, UInt8.ofNat_toNat]

/-- A message number is within the range that the reader admits. -/
theorem messageIdOfJson?_integer (id : Int32) : messageIdOfJson? (.integer id.toInt) = some id := by
  have range : -0x80000000 ≤ id.toInt ∧ id.toInt < 0x80000000 := ⟨id.le_toInt, id.toInt_lt⟩
  rw [messageIdOfJson?, integer?, Option.bind_some, if_pos range, Int32.ofInt_toInt]

theorem AssertionValue.ofJson?_toJson (value : AssertionValue) :
    AssertionValue.ofJson? value.toJson = some value := by
  cases value with
  | text s => rfl
  | binary bytes =>
    have back := list?_map byteOfJson?_integer bytes
    simp [AssertionValue.toJson, record, AssertionValue.ofJson?, back]

/-- Each value has the tag that its reader looks for. -/
theorem CompareRequest.ofJson?_toJson (request : CompareRequest) :
    CompareRequest.ofJson? request.toJson = some request := by
  obtain ⟨messageId, name, attributeId, value⟩ := request
  rw [CompareRequest.ofJson?, CompareRequest.toJson, record?_record]
  simp [Record.required?, Record.defaulted?, Record.field?, messageIdOfJson?_integer,
    AssertionValue.ofJson?_toJson, text?_text]

theorem AssertionValue.readable_toJson (value : AssertionValue) : Readable value.toJson := by
  cases value with
  | text s => exact readable_record (List.forall_mem_singleton.2 (readable_text s))
  | binary bytes =>
    have each : ∀ b : UInt8, Readable (.integer b.toNat) := fun b => .integer _
    exact readable_record (List.forall_mem_singleton.2 (readable_map each bytes))

theorem CompareRequest.readable_toJson (request : CompareRequest) : Readable request.toJson := by
  refine readable_record ?_
  simp only [List.forall_mem_cons]
  exact ⟨.integer _, readable_text _, readable_text _, request.value.readable_toJson, by simp⟩

/-- A format in which every value is read back from its text, on one line or laid out over several. -/
def Interchanges {α : Type} (toJson : α → Json) (ofJson? : Json → Option α) : Prop :=
  ∀ a, (parse? (toJson a).render).bind ofJson? = some a ∧
    (parse? (toJson a).renderLines).bind ofJson? = some a

/-- What a reader makes of a value carries over to its texts. -/
theorem interchanges {α : Type} {toJson : α → Json} {ofJson? : Json → Option α}
    (readable : ∀ a, Readable (toJson a)) (back : ∀ a, ofJson? (toJson a) = some a) :
    Interchanges toJson ofJson? := by
  intro a
  rw [parse?_render (readable a), parse?_renderLines (readable a), Option.bind_some]
  exact ⟨back a, back a⟩

/-- Definitions, the entries of documents, documents and compare requests are read back from their own
JSON in every field, the message number of a request among them, though two requests that differ in
nothing else ask the same. -/
theorem formats_interchange :
    Interchanges Definition.toJson Definition.ofJson? ∧
      Interchanges Entry.toJson Entry.ofJson? ∧
      Interchanges Document.toJson Document.ofJson? ∧
      Interchanges CompareRequest.toJson CompareRequest.ofJson? :=
  ⟨interchanges Definition.readable_toJson Definition.ofJson?_toJson,
    interchanges Entry.readable_toJson Entry.ofJson?_toJson,
    interchanges Document.readable_toJson Document.ofJson?_toJson,
    interchanges CompareRequest.readable_toJson CompareRequest.ofJson?_toJson⟩

end Subschema
