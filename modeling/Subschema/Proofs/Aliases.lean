import Subschema.Proofs.SmallLetters
import Subschema.Proofs.Verdict

namespace Subschema

/-- Only what spells an identifier has it for its key. -/
theorem nameKey_eq_text_iff {s : String} {oid : Oid} : nameKey s = oid.text ↔ Text.trim s = oid.text := by
  constructor
  · intro same
    have numeric := oid.numeric
    rw [← same, nameKey] at numeric
    rw [← same, nameKey, Text.lower_eq_of_isNumericOid numeric]
  · intro same
    rw [← nameKey_trim, same, nameKey_of_isNumericOid oid.numeric]

/-- The grammars of names and identifiers have no spelling in common. -/
theorem trim_ne_text_of_isDescr {name : String} (descr : isDescr name.toList = true) (oid : Oid) :
    Text.trim name ≠ oid.text := by
  intro same
  rw [Text.trim_of_plain (plain_of_isDescr descr)] at same
  refine map_asciiLower_ne_of_isDescr descr oid.numeric ?_
  rw [same, map_asciiLower_of_isNumericOid oid.numeric]

namespace Registry

section Reached

variable {registry : Registry} (reached : registry.Reached)

include reached

/-- An identifier stands for itself, once it is registered. -/
theorem Reached.resolve_of_trim {reference : String} {oid : Oid} (same : Text.trim reference = oid.text) :
    registry.resolve reference =
      if registry.store.contains oid.text = true then .ok oid else .error (.nameNotFound reference) := by
  have spelled : registry.store.names.get? reference = registry.store.names.get? oid.text := by
    rw [← NameMap.get?_trim, same]
  rw [resolve, NameMap.resolve, spelled]
  cases known : registry.store.contains oid.text with
  | true =>
    have bound := (reached.get?_of_isNumericOid oid.numeric).2 ⟨rfl, known⟩
    rw [bound, if_pos rfl]
  | false => rw [reached.unbound_of_absent known, if_neg Bool.false_ne_true]

/-- Whatever does not spell an identifier stands for it as a name only. -/
theorem Reached.resolve_eq_ok_iff_of_ne {reference : String} {oid : Oid}
    (other : oid.text ≠ Text.trim reference) :
    registry.resolve reference = .ok oid ↔
      ∃ d, registry.store.get? oid.text = some d ∧ ∃ name ∈ d.names, nameKey name = nameKey reference := by
  have coherent := reached.sound.coherent
  rw [resolve_eq_ok_iff, NameMap.get?, coherent.named]
  refine exists_congr fun d => and_congr_right fun stored => ?_
  have differs : nameKey d.oid.text ≠ nameKey reference := by
    intro same
    rw [coherent.keyed stored, nameKey_of_isNumericOid oid.numeric] at same
    exact other (nameKey_eq_text_iff.1 same.symm).symm
  rw [Definition.keys, Definition.spellings, List.map_cons, List.mem_cons, List.mem_map]
  exact or_iff_right differs.symm

/-- An identifier is never in the way of its own definition. -/
theorem Reached.checkBindable_own (oid : Oid) :
    registry.store.names.checkBindable oid.text oid = .ok () := by
  refine NameMap.checkBindable_eq_ok_iff.2 fun other found => ?_
  exact Oid.eq_of_text ((reached.get?_of_isNumericOid oid.numeric).1 found).1

/-- A definition is refused for a name of its own that is one of another definition. -/
theorem Reached.alias_of_duplicateName {d : Definition} {name existing : String}
    (fails : registry.register d = .error (.duplicateName name existing)) :
    name ∈ d.names ∧ name ≠ d.oid.text ∧ existing ≠ d.oid.text ∧
      ∃ e, registry.store.get? existing = some e ∧ ∃ taken ∈ e.names, nameKey taken = nameKey name := by
  have verdict := reached.exists_verdict d
  rw [fails] at verdict
  cases verdict with
  | @taken _ owner wellNamed absent first bound =>
    have member := List.mem_of_find?_eq_some first
    have descr := wellNamed.named name member
    have apart := trim_ne_text_of_isDescr descr
    obtain ⟨e, stored, shared⟩ := (reached.resolve_eq_ok_iff_of_ne (apart owner).symm).1 bound
    refine ⟨member, ?_, ?_, e, stored, shared⟩
    · rw [← Text.trim_of_plain (plain_of_isDescr descr)]
      exact apart d.oid
    · intro same
      rw [← same, Store.contains_eq_false_iff, stored] at absent
      simp at absent

end Reached

/-- Whatever calls have led to a registry, identifiers and names do not get in the way of each other. What
spells an identifier stands for that one if it is registered, and else for nothing. Registering a definition
never fails for a double name on account of its identifier, which may always be bound to itself: the name is
one of the names that the definition is given, and another definition has it for a name. A reference that
does not spell an identifier stands for it exactly if it has the key of a name of what is registered under
it. And a superior that spells an identifier is taken for nothing else, be it registered or not. -/
theorem Reached.aliases_apart {registry : Registry} (reached : registry.Reached) :
    (∀ reference (oid : Oid), Text.trim reference = oid.text → registry.resolve reference =
      if registry.store.contains oid.text = true then .ok oid else .error (.nameNotFound reference)) ∧
    (∀ oid : Oid, registry.store.names.checkBindable oid.text oid = .ok ()) ∧
    (∀ d name existing, registry.register d = .error (.duplicateName name existing) →
      name ∈ d.names ∧ name ≠ d.oid.text ∧ existing ≠ d.oid.text ∧
        ∃ e, registry.store.get? existing = some e ∧ ∃ taken ∈ e.names, nameKey taken = nameKey name) ∧
    (∀ reference (oid : Oid), oid.text ≠ Text.trim reference →
      (registry.resolve reference = .ok oid ↔ ∃ d, registry.store.get? oid.text = some d ∧
        ∃ name ∈ d.names, nameKey name = nameKey reference)) ∧
    ∀ d : Definition, (∀ name ∈ d.names, checkName name = .ok ()) →
      ∀ reference (oid : Oid), Text.trim reference = oid.text →
        ∀ superior, registry.resolveSuperior d reference = .ok superior → superior = oid.text := by
  refine ⟨fun _ _ same => reached.resolve_of_trim same, reached.checkBindable_own,
    fun _ _ _ fails => reached.alias_of_duplicateName fails,
    fun _ _ other => reached.resolve_eq_ok_iff_of_ne other, fun d named reference oid same superior run => ?_⟩
  have numeric : isNumericOid (Text.trim reference).toList = true := same ▸ oid.numeric
  rw [reached.resolveSuperior_of_isNumericOid named numeric, same] at run
  split at run
  · exact (Except.ok.inj run).symm
  · simp at run

end Registry

namespace Sample

def newcomer : Definition :=
  { oid := ⟨"2.5.6.11", by decide⟩, kind := .objectClass, names := ["x", "TOP"] }

end Sample

/-- The second name of the definition that comes is the name of another one. -/
theorem Registry.Reached.aliases_apart_newcomer :
    Sample.full.resolve " 2.5.6.0\n" = .ok Sample.top.oid ∧
      Sample.full.resolve "2.5.6.11 " = .error (.nameNotFound "2.5.6.11 ") ∧
      Sample.full.resolve "\tToP" = .ok Sample.top.oid ∧
      Sample.full.register Sample.newcomer = .error (.duplicateName "TOP" "2.5.6.0") ∧
      ∃ e, Sample.full.store.get? "2.5.6.0" = some e ∧ ∃ taken ∈ e.names, nameKey taken = nameKey "TOP" := by
  obtain ⟨itself, _, double, named, _⟩ := aliases_apart Sample.full_reached
  have fails : Sample.full.register Sample.newcomer = .error (.duplicateName "TOP" "2.5.6.0") := by
    decide +kernel
  have known := itself " 2.5.6.0\n" Sample.top.oid (by decide)
  have unknown := itself "2.5.6.11 " Sample.newcomer.oid (by decide)
  rw [if_pos (by decide +kernel)] at known
  rw [if_neg (by decide +kernel)] at unknown
  have spelled := (named "\tToP" Sample.top.oid (by decide)).2
    ⟨Sample.top, by decide +kernel, "top", by decide, by decide +kernel⟩
  exact ⟨known, unknown, spelled, fails, (double _ _ _ fails).2.2.2⟩

end Subschema
