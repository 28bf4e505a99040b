import Subschema.Proofs.Sound
import Subschema.Proofs.Spelling

namespace Subschema

open Relation

namespace Store

theorem unregister_eq_ok {store : Store} {name : String} {oid : Oid} {d : Definition}
    (found : store.names.get? name = some oid) (stored : store.get? oid.text = some d) :
    store.unregister name =
      .ok (d, ⟨d.spellings.foldl NameMap.unbind store.names, store.definitions.erase oid.text⟩) := by
  simp only [unregister, found, stored]

theorem erase_of_insert {store after : Store} {oid : String} {d : Definition}
    (absent : store.get? oid = none)
    (definitions : after.definitions = store.definitions.insert oid d) :
    after.definitions.erase oid = store.definitions := by
  refine Std.ExtTreeMap.ext_getElem? fun {other} => ?_
  rw [definitions, Std.ExtTreeMap.getElem?_erase, Std.ExtTreeMap.getElem?_insert]
  by_cases same : oid = other
  · rw [← same, ← get?, absent]
    simp
  · simp [same]

/-- Removing a new definition under any of its keys frees exactly the keys that it took. -/
theorem Coherent.unregister_of_register {store after : Store} (coherent : store.Coherent)
    {d : Definition} (run : store.register d = .ok after) {name : String}
    (own : nameKey name ∈ d.keys) : after.unregister name = .ok (d, store) := by
  obtain ⟨absent, free, definitions, bindings⟩ := register_cases run
  have found : after.names.get? name = some d.oid := by
    rw [NameMap.get?, bindings, if_pos own]
  have stored : after.get? d.oid.text = some d := by
    rw [get?_of_insert definitions, if_pos rfl]
  have freed : ∀ key, (d.spellings.foldl NameMap.unbind after.names).bindings[key]? =
      if key ∈ d.keys then none else after.names.bindings[key]? :=
    fun key => NameMap.bindings_foldl_unbind key
  have names : d.spellings.foldl NameMap.unbind after.names = store.names := by
    refine NameMap.ext_bindings fun key => ?_
    rw [freed, bindings]
    by_cases taken : key ∈ d.keys
    · rw [if_pos taken, coherent.unbound absent free taken]
    · rw [if_neg taken, if_neg taken]
  rw [unregister_eq_ok found stored, names, erase_of_insert absent definitions]

end Store

/-- The index is not wound back step by step. It is current before and after, and a store has only
one current index. -/
theorem Index.withdraw_enter {index : Index} {store after : Store} {d : Definition}
    (current : index.Current store) (absent : store.get? d.oid.text = none)
    (definitions : after.definitions = store.definitions.insert d.oid.text d) :
    (index.enter after d).withdraw store d = index := by
  have stored : after.get? d.oid.text = some d := by
    rw [Store.get?_of_insert definitions, if_pos rfl]
  have erased := (Store.erase_of_insert absent definitions).symm
  exact (withdraw_current (enter_current current absent definitions) stored erased).unique current

namespace Registry

/-- Registering a definition and removing it again, by its identifier or by any of its names in any
ASCII case and with any blanks around it, gives the stored definition back and changes nothing at
all. -/
theorem Reached.unregister_register {registry after : Registry} (reached : registry.Reached)
    {d stored : Definition} (run : registry.register d = .ok (stored, after))
    {spelling name : String} (member : spelling ∈ d.spellings)
    (same : Text.equalsIgnoringAsciiCase spelling (Text.trim name) = true) :
    after.unregister name = .ok (stored, registry) := by
  obtain ⟨passes, store, stores, rfl⟩ := register_eq_ok_iff.1 run
  obtain ⟨_, named, _, superiors, _, _, rfl⟩ := prepare_eq_ok_iff.1 passes
  obtain ⟨absent, _, definitions, _⟩ := Store.register_cases stores
  have sound := reached.sound
  have removes := sound.coherent.unregister_of_register stores
    (Definition.mem_keys_of_spelling named member same)
  refine unregister_eq_ok_iff.2 ⟨registry.store, removes, ?_⟩
  rw [Index.withdraw_enter sound.current absent definitions]

/-- By identifier and by name, with blanks around it and in capitals. -/
theorem Reached.unregister_register_top :
    Sample.full.unregister "\t2.5.6.0" = .ok (Sample.top, Sample.waiting) ∧
      Sample.full.unregister " TOP " = .ok (Sample.top, Sample.waiting) :=
  ⟨unregister_register Sample.waiting_reached Sample.register_top List.mem_cons_self (by decide +kernel),
    unregister_register Sample.waiting_reached Sample.register_top
      (List.mem_cons_of_mem _ List.mem_cons_self) (by decide +kernel)⟩

end Registry

end Subschema
