import Subschema.Proofs.Current

namespace Subschema

namespace Store

/-- The store after a definition has been offered to it. One that is refused changes nothing. -/
def offer (store : Store) (d : Definition) : Store :=
  match store.register d with
  | .ok after => after
  | .error _ => store

/-- The store without what a name stands for. A name that stands for nothing changes nothing. -/
def drop (store : Store) (name : String) : Store :=
  match store.unregister name with
  | .ok (_, after) => after
  | .error _ => store

/-- The stores that come about from the empty one. -/
inductive Reached : Store → Prop
  | empty : Reached {}
  | offer {store : Store} (d : Definition) : Reached store → Reached (store.offer d)
  | drop {store : Store} (name : String) : Reached store → Reached (store.drop name)

/-- Names and definitions of a store fit together after any history, also when nothing has checked
the names. -/
theorem Reached.coherent {store : Store} (reached : store.Reached) : store.Coherent := by
  induction reached with
  | empty => exact coherent_empty
  | offer d _ ih =>
    unfold Store.offer
    split
    · rename_i run
      exact ih.register run
    · exact ih
  | drop name _ ih =>
    unfold Store.drop
    split
    · rename_i run
      exact ih.unregister run
    · exact ih

/-- A key belongs to a definition exactly if that is stored and has it. -/
theorem Coherent.binding_iff {store : Store} (coherent : store.Coherent) {key : String}
    {oid : Oid} :
    store.names.bindings[key]? = some oid ↔ ∃ d ∈ store.toList, d.oid = oid ∧ key ∈ d.keys := by
  rw [coherent.named]
  constructor
  · rintro ⟨d, stored, own⟩
    obtain rfl := Oid.eq_of_text (coherent.keyed stored)
    exact ⟨d, coherent.mem_toList.2 stored, rfl, own⟩
  · rintro ⟨d, member, rfl, own⟩
    exact ⟨d, coherent.mem_toList.1 member, own⟩

/-- No two stored definitions share a key. -/
theorem Coherent.eq_of_mem_keys {store : Store} (coherent : store.Coherent) {d e : Definition}
    (first : d ∈ store.toList) (second : e ∈ store.toList) {key : String} (own : key ∈ d.keys)
    (shared : key ∈ e.keys) : d = e := by
  have one := coherent.binding_iff.2 ⟨d, first, rfl, own⟩
  have two := coherent.binding_iff.2 ⟨e, second, rfl, shared⟩
  have same : d.oid = e.oid := Option.some.inj (one.symm.trans two)
  have stored := coherent.mem_toList.1 first
  have again := coherent.mem_toList.1 second
  rw [same, again] at stored
  exact (Option.some.inj stored).symm

theorem Coherent.get?_eq_none_iff {store : Store} (coherent : store.Coherent) {name : String} :
    store.names.get? name = none ↔ ∀ d ∈ store.toList, nameKey name ∉ d.keys := by
  rw [Option.eq_none_iff_forall_ne_some]
  constructor
  · intro unbound d member own
    exact unbound d.oid (coherent.binding_iff.2 ⟨d, member, rfl, own⟩)
  · intro foreign oid found
    obtain ⟨d, member, _, own⟩ := coherent.binding_iff.1 found
    exact foreign d member own

theorem Coherent.isEmpty_names {store : Store} (coherent : store.Coherent) :
    store.names.isEmpty = store.isEmpty := by
  rw [Bool.eq_iff_iff, NameMap.isEmpty, isEmpty, Std.ExtTreeMap.isEmpty_iff,
    Std.ExtTreeMap.isEmpty_iff, Std.ExtTreeMap.eq_empty_iff_forall_not_mem,
    Std.ExtTreeMap.eq_empty_iff_forall_not_mem]
  simp only [Std.ExtTreeMap.mem_iff_isSome_getElem?, Bool.not_eq_true, Option.isSome_eq_false_iff,
    Option.isNone_iff_eq_none]
  constructor
  · intro unbound oid
    refine Option.eq_none_iff_forall_ne_some.2 fun d stored => ?_
    have own : nameKey d.oid.text ∈ d.keys := List.mem_cons_self
    rw [← coherent.keyed stored] at stored
    have found := coherent.named.2 ⟨d, stored, own⟩
    rw [unbound] at found
    simp at found
  · intro absent key
    refine Option.eq_none_iff_forall_ne_some.2 fun oid found => ?_
    obtain ⟨d, stored, _⟩ := coherent.named.1 found
    have none := absent oid.text
    rw [← get?, stored] at none
    simp at none

/-- What a removed definition leaves behind: exactly what stood for it stands for nothing. -/
theorem Coherent.get?_unregister {store after : Store} (coherent : store.Coherent)
    {name : String} {d : Definition} (run : store.unregister name = .ok (d, after))
    (other : String) :
    after.names.get? other =
      if store.names.get? other = some d.oid then none else store.names.get? other := by
  obtain ⟨oid, _, stored, _, bindings⟩ := unregister_cases run
  obtain rfl := Oid.eq_of_text (coherent.keyed stored)
  have own : nameKey other ∈ d.keys ↔ store.names.get? other = some d.oid := by
    rw [NameMap.get?, coherent.named]
    constructor
    · exact fun own => ⟨d, stored, own⟩
    · rintro ⟨e, again, own⟩
      cases Option.some.inj (stored.symm.trans again)
      exact own
  rw [NameMap.get?, bindings]
  simp only [own]
  rfl

/-- After any history of a store, whatever names its definitions were given: the name map holds the
keys of the stored definitions and nothing else, no key belongs to two of them, and a string is
answered with the definition that has its key, or refused where there is none. There is no third
case. The map is empty with the store, and removing a definition disturbs no other one. -/
theorem Reached.names_exact {store : Store} (reached : store.Reached) :
    (∀ key oid, store.names.bindings[key]? = some oid ↔
      ∃ d ∈ store.toList, d.oid = oid ∧ ∃ name ∈ d.oid.text :: d.names, nameKey name = key) ∧
    (∀ d ∈ store.toList, ∀ e ∈ store.toList, ∀ key ∈ d.keys, key ∈ e.keys → d = e) ∧
    (∀ name, ∀ d ∈ store.toList, nameKey name ∈ d.keys →
      store.names.resolve name = .ok d.oid ∧ store.names.contains name = true ∧
      store.lookup name = .ok d ∧ ∃ after, store.unregister name = .ok (d, after)) ∧
    (∀ name, (∀ d ∈ store.toList, nameKey name ∉ d.keys) →
      store.names.resolve name = .error (.nameNotFound name) ∧
      store.names.contains name = false ∧
      store.lookup name = .error (.nameNotFound name) ∧
      store.unregister name = .error (.notFound name)) ∧
    (∀ name oid, store.names.get? name = some oid → ∃ d, store.get? oid.text = some d) ∧
    store.names.isEmpty = store.isEmpty ∧
    ∀ name d after, store.unregister name = .ok (d, after) → ∀ other,
      after.names.get? other =
        if store.names.get? other = some d.oid then none else store.names.get? other := by
  have coherent := reached.coherent
  refine ⟨fun key oid => ?_, fun d first e second key own shared => ?_,
    fun name d member own => ?_, fun name foreign => ?_, fun name oid found => ?_,
    coherent.isEmpty_names, fun name d after run other => coherent.get?_unregister run other⟩
  · simpa only [Definition.keys, Definition.spellings, List.mem_map] using coherent.binding_iff
  · exact coherent.eq_of_mem_keys first second own shared
  · have found : store.names.get? name = some d.oid := coherent.binding_iff.2 ⟨d, member, rfl, own⟩
    have stored := coherent.mem_toList.1 member
    exact ⟨by simp only [NameMap.resolve, found], by simp [NameMap.contains, found],
      coherent.lookup_eq_ok_iff.2 ⟨found, stored⟩, by simp [unregister, found, stored]⟩
  · have unbound := coherent.get?_eq_none_iff.2 foreign
    exact ⟨by simp only [NameMap.resolve, unbound], by simp [NameMap.contains, unbound],
      by simp only [lookup, NameMap.resolve, unbound], by simp only [unregister, unbound]⟩
  · obtain ⟨d, stored, _⟩ := coherent.named.1 found
    exact ⟨d, stored⟩

end Store

namespace Sample

/-- Three of the names share a key, one is empty, and one spells the identifier. -/
def careless : Definition :=
  { oid := ⟨"2.5.4.3", by decide⟩, kind := .attributeType,
    names := ["cn", " CN", "", "cn", "2.5.4.3 "] }

/-- One of the names is the identifier of another definition. -/
def intruder : Definition :=
  { oid := ⟨"2.5.4.4", by decide⟩, kind := .attributeType, names := ["sn", "\t2.5.4.3"] }

def surname : Definition :=
  { oid := ⟨"2.5.4.4", by decide⟩, kind := .attributeType, names := ["sn"] }

end Sample

/-- Definitions with names that no registry would let through. -/
theorem Store.Reached.names_exact_careless :
    let store := ((({} : Store).offer Sample.careless).offer Sample.intruder).offer Sample.surname
    store.lookup "Cn\n" = .ok Sample.careless ∧ store.lookup "" = .ok Sample.careless ∧
      store.lookup "SN" = .ok Sample.surname ∧
      store.lookup "surname" = .error (.nameNotFound "surname") := by
  obtain ⟨_, _, found, missed, _⟩ := names_exact
    (((Reached.empty.offer Sample.careless).offer Sample.intruder).offer Sample.surname)
  exact ⟨(found "Cn\n" Sample.careless (by decide +kernel) (by decide +kernel)).2.2.1,
    (found "" Sample.careless (by decide +kernel) (by decide +kernel)).2.2.1,
    (found "SN" Sample.surname (by decide +kernel) (by decide +kernel)).2.2.1,
    (missed "surname" (by decide +kernel)).2.2.1⟩

end Subschema
