import Mathlib.Data.List.Find
import Subschema.Proofs.Batch
import Subschema.Proofs.SmallLetters
import Subschema.Proofs.Verdict

namespace Subschema

open Relation

namespace Definition

/-- A reference to a definition by the key of its identifier or of one of its names. -/
def Owns (d : Definition) (reference : String) : Prop :=
  nameKey reference ∈ d.keys

instance (d : Definition) (reference : String) : Decidable (d.Owns reference) :=
  inferInstanceAs (Decidable (nameKey reference ∈ d.keys))

/-- A reference that names a definition is ASCII, as names are. -/
theorem ascii_of_hasName {d : Definition} (named : ∀ name ∈ d.names, checkName name = .ok ())
    {reference : String} (own : d.hasName reference = true) :
    ∀ c ∈ (Text.trim reference).toList, c.toNat < 0x80 := by
  rw [hasName, Bool.or_eq_true, beq_iff_eq, List.any_eq_true] at own
  rcases own with same | ⟨name, member, same⟩
  · rw [← same]
    exact fun c inside => (plain_of_isNumericOid d.oid.numeric c inside).1
  · have plain := d.plain_of_mem_spellings named name (List.mem_cons_of_mem _ member)
    exact Text.ascii_of_equalsIgnoringAsciiCase same fun c inside => (plain c inside).1

/-- A definition goes by the references with one of its keys, if there is no KELVIN SIGN in them. -/
theorem hasName_iff {d : Definition} (named : ∀ name ∈ d.names, checkName name = .ok ())
    {reference : String} :
    d.hasName reference = true ↔ d.Owns reference ∧ Text.kelvinSign ∉ reference.toList := by
  constructor
  · intro own
    refine ⟨mem_keys_of_hasName named own, fun inside => ?_⟩
    have ascii := ascii_of_hasName named own _ ((Text.mem_trim_iff (by decide)).2 inside)
    exact absurd ascii (by decide)
  · rintro ⟨own, other⟩
    obtain ⟨spelling, member, same⟩ := List.mem_map.1 own
    have plain := d.plain_of_mem_spellings named spelling member
    rw [nameKey, nameKey, Text.trim_of_plain plain] at same
    rw [← Text.mem_trim_iff (by decide)] at other
    have spelled := Text.equalsIgnoringAsciiCase_of_lower_eq (fun c inside => (plain c inside).1)
      other same
    rw [hasName, Bool.or_eq_true, beq_iff_eq, List.any_eq_true]
    rcases List.mem_cons.1 member with rfl | name
    · have maps := eq_of_beq spelled
      rw [map_asciiLower_of_isNumericOid d.oid.numeric] at maps
      exact Or.inl (String.toList_inj.1 (eq_of_map_asciiLower_eq d.oid.numeric maps)).symm
    · exact Or.inr ⟨spelling, name, spelled⟩

end Definition

namespace Registry

section Fresh

variable {registry : Registry} (reached : registry.Reached) {d : Definition}
  (fresh : registry.Fresh d)

include reached fresh

theorem Reached.not_bound_to_fresh (key : String) :
    registry.store.names.bindings[key]? ≠ some d.oid := by
  intro bound
  obtain ⟨e, stored, _⟩ := reached.sound.coherent.named.1 bound
  rw [Store.contains_eq_false_iff.1 fresh.absent] at stored
  simp at stored

/-- Once a definition is stored, its own references are those that stand for it. -/
theorem Reached.exists_register_owns : ∃ store, registry.store.register d = .ok store ∧
    ∀ reference, store.names.get? reference = some d.oid ↔ d.Owns reference := by
  obtain ⟨_, store, stores⟩ := Store.register_of_unbound
    (Store.contains_eq_false_iff.1 fresh.absent) (reached.unbound_of_fresh fresh)
  obtain ⟨_, _, _, names⟩ := Store.register_cases stores
  refine ⟨store, stores, fun reference => ?_⟩
  rw [NameMap.get?, names]
  by_cases own : nameKey reference ∈ d.keys
  · exact iff_of_true (if_pos own) own
  · rw [if_neg own]
    exact iff_of_false (reached.not_bound_to_fresh fresh _) own

theorem Reached.eq_of_gathered {e : Definition} (member : e ∈ registry.gathered [d])
    (called : e.oid.text = d.oid.text) : e = d := by
  rw [gathered, List.mem_append, List.mem_singleton] at member
  refine member.resolve_left fun stored => ?_
  rw [reached.sound.coherent.mem_toList, called,
    Store.contains_eq_false_iff.1 fresh.absent] at stored
  simp at stored

theorem Reached.eq_of_owns {e : Definition} (member : e ∈ registry.gathered [d])
    {key : String} (own : key ∈ d.keys) (shared : key ∈ e.keys) : e = d := by
  rw [gathered, List.mem_append, List.mem_singleton] at member
  refine member.resolve_left fun stored => ?_
  have bound := reached.sound.coherent.named.2
    ⟨e, reached.sound.coherent.mem_toList.1 stored, shared⟩
  rw [reached.unbound_of_fresh fresh _ own] at bound
  simp at bound

section Graph

variable {definitions : List Definition} (same : definitions.Perm (registry.gathered [d]))

include same

/-- In the graph of a registry and a definition, the definition is what its own references lead to. -/
theorem Reached.owner_iff_owns {reference : String} :
    (Hierarchy.owners definitions)[nameKey reference]? = some d.oid.text ↔ d.Owns reference := by
  have absent := Store.contains_eq_false_iff.1 fresh.absent
  have apart : (definitions.map fun e => e.oid.text).Nodup :=
    ((same.map _).nodup_iff).2 (reached.nodup_gathered (by simp) (by simpa using absent))
  constructor
  · intro found
    obtain ⟨e, among, called, own⟩ := Hierarchy.owner_of_getElem? apart found
    rwa [reached.eq_of_gathered fresh (same.mem_iff.1 among) called] at own
  · intro own
    have member : d ∈ definitions := same.mem_iff.2 (by simp)
    obtain ⟨oid, found⟩ := Hierarchy.exists_owner apart member own
    obtain ⟨e, among, rfl, shared⟩ := Hierarchy.owner_of_getElem? apart found
    rwa [reached.eq_of_owns fresh (same.mem_iff.1 among) own shared] at found

/-- The definition has an edge to itself where it has a reference of its own. -/
theorem Reached.edge_self_iff :
    (Hierarchy.ofDefinitions definitions).Edge d.oid.text d.oid.text ↔
      ∃ reference ∈ d.superiors, d.Owns reference := by
  rw [Hierarchy.edge_ofDefinitions]
  simp only [reached.owner_iff_owns fresh same]
  constructor
  · rintro ⟨e, among, called, reference, named, own⟩
    rw [reached.eq_of_gathered fresh (same.mem_iff.1 among) called] at named
    exact ⟨reference, named, own⟩
  · rintro ⟨reference, named, own⟩
    exact ⟨d, same.mem_iff.2 (by simp), rfl, reference, named, own⟩

end Graph

/-- A definition that goes by one of its references is refused for a loop. -/
theorem Reached.register_of_hasName {reference : String} (named : reference ∈ d.superiors)
    (self : d.hasName reference = true)
    (known : ∀ reference ∈ d.superiors, registry.knows d reference = true) :
    ∃ path, registry.register d = .error (.cyclicHierarchy d.oid.text path) := by
  obtain ⟨superiors, vetted⟩ := fresh.vetted known
  obtain ⟨found, resolves, rfl⟩ := vetted.resolves
  obtain ⟨superior, listed, stands⟩ := exists_of_forall₂ resolves named
  have own : superior = d.oid.text := by
    cases stands with
    | own _ => rfl
    | bound foreign _ => simp [self] at foreign
    | waits foreign _ _ _ => simp [self] at foreign
  subst own
  exact reached.register_of_cyclic vetted ⟨_, List.mem_eraseDups.2 listed, .refl⟩

/-- What a fresh definition owns without going by it stands for nothing. -/
theorem Reached.not_knows_of_kelvinSign {reference : String} (own : d.Owns reference)
    (inside : Text.kelvinSign ∈ reference.toList) : registry.knows d reference = false := by
  have named : ∀ name ∈ d.names, checkName name = .ok () :=
    fun name member => checkName_eq_ok_iff.2 (fresh.named name member)
  have foreign : d.hasName reference = false :=
    Bool.eq_false_iff.2 fun self => ((Definition.hasName_iff named).1 self).2 inside
  have free := contains_eq_false_iff.2 (reached.unbound_of_fresh fresh _ own)
  have worded : isNumericOid (Text.trim reference).toList = false := by
    refine Bool.eq_false_iff.2 fun numeric => ?_
    have plain := plain_of_isNumericOid numeric _ ((Text.mem_trim_iff (by decide)).2 inside)
    exact absurd plain.1 (by decide)
  rw [knows, foreign, free, worded, Bool.and_false, Bool.or_false, Bool.or_false]

end Fresh

end Registry

namespace Sample

def letterK : Definition :=
  { oid := ⟨"1.1", by decide⟩, kind := .objectClass, names := ["k"], superiors := ["top", " K "] }

def kelvin : Definition := { letterK with superiors := ["\u212A"] }

end Sample

/-- A definition goes by the references that it owns, those with a KELVIN SIGN excepted; the name map and
the graph make no exception. So a fresh definition that refers to itself, and otherwise to what is known,
is refused for the loop if none of the references to itself is an exception, and else for the first that
is, as a name that is not found. -/
theorem Definition.hasName_exact {d : Definition}
    (named : ∀ name ∈ d.names, checkName name = .ok ()) :
    (∀ reference, d.hasName reference = true ↔
      d.Owns reference ∧ Text.kelvinSign ∉ reference.toList) ∧
    ∀ registry : Registry, registry.Reached → registry.Fresh d →
      (∃ store, registry.store.register d = .ok store ∧
        ∀ reference, store.names.get? reference = some d.oid ↔ d.Owns reference) ∧
      (∀ definitions, definitions.Perm (registry.gathered [d]) →
        ((Hierarchy.ofDefinitions definitions).Edge d.oid.text d.oid.text ↔
          ∃ reference ∈ d.superiors, d.Owns reference)) ∧
      ((∀ reference ∈ d.superiors, d.Owns reference ∨ registry.knows d reference = true) →
        (∃ reference ∈ d.superiors, d.Owns reference) →
        match d.superiors.find? fun reference =>
            d.Owns reference ∧ Text.kelvinSign ∈ reference.toList with
        | some reference => registry.register d = .error (.nameNotFound (Text.trim reference))
        | none => ∃ path, registry.register d = .error (.cyclicHierarchy d.oid.text path)) := by
  refine ⟨fun _ => hasName_iff named, fun registry reached fresh =>
    ⟨reached.exists_register_owns fresh, fun _ => reached.edge_self_iff fresh, fun known self => ?_⟩⟩
  have unknown : ∀ reference ∈ d.superiors,
      (!registry.knows d reference) =
        decide (d.Owns reference ∧ Text.kelvinSign ∈ reference.toList) := by
    intro reference member
    by_cases exception : d.Owns reference ∧ Text.kelvinSign ∈ reference.toList
    · rw [reached.not_knows_of_kelvinSign fresh exception.1 exception.2, decide_eq_true exception]
      rfl
    · have found : registry.knows d reference = true := by
        refine (known reference member).elim (fun own => ?_) id
        have goesBy := (hasName_iff named).2 ⟨own, fun inside => exception ⟨own, inside⟩⟩
        exact Registry.knows_iff.2 ⟨_, .own goesBy⟩
      rw [found, decide_eq_false exception]
      rfl
  rw [← List.find?_congr unknown]
  split
  · rename_i reference first
    exact reached.register_of_unknown fresh first
  · rename_i none
    have found : ∀ reference ∈ d.superiors, registry.knows d reference = true := by simpa using none
    obtain ⟨reference, member, own⟩ := self
    have fine := unknown reference member
    rw [found reference member, eq_comm, Bool.not_true, decide_eq_false_iff_not] at fine
    exact reached.register_of_hasName fresh member
      ((hasName_iff named).2 ⟨own, fun inside => fine ⟨own, inside⟩⟩) found

/-- One reference is written with the letter K, the other with a KELVIN SIGN. -/
theorem Definition.hasName_exact_letterK :
    (∃ path, Sample.full.register Sample.letterK = .error (.cyclicHierarchy "1.1" path)) ∧
      Sample.full.register Sample.kelvin = .error (.nameNotFound "\u212A") := by
  have letter := (@hasName_exact Sample.letterK (by decide)).2 _ Sample.full_reached
    ⟨⟨rfl, by decide⟩, by decide +kernel, by decide +kernel⟩
  have sign := (@hasName_exact Sample.kelvin (by decide)).2 _ Sample.full_reached
    ⟨⟨rfl, by decide⟩, by decide +kernel, by decide +kernel⟩
  exact ⟨letter.2.2 (by decide +kernel) (by decide +kernel),
    sign.2.2 (by decide +kernel) (by decide +kernel)⟩

/-- Its key tells that the reference is one to the definition itself, and yet it is not found. -/
theorem Definition.hasName_kelvinSign :
    (∀ name ∈ Sample.kelvin.names, checkName name = .ok ()) ∧ Sample.kelvin.Owns "\u212A" ∧
      Sample.kelvin.hasName "\u212A" = false ∧
      ({ kind := .objectClass, policy := .defer } : Registry).register Sample.kelvin =
        .error (.nameNotFound "\u212A") ∧
      ({ kind := .objectClass, policy := .reject } : Registry).register Sample.kelvin =
        .error (.nameNotFound "\u212A") := by
  refine ⟨by decide, by decide +kernel, by decide +kernel, by decide +kernel, by decide +kernel⟩

end Subschema
