import Subschema.Proofs.Canonical

namespace Subschema

open Relation

namespace Store

/-- A definition is stored if its identifier is free and its spellings stand for nothing. -/
theorem register_of_unbound {store : Store} {d : Definition}
    (absent : store.get? d.oid.text = none)
    (unbound : ∀ key ∈ d.keys, store.names.bindings[key]? = none) :
    store.checkRegistrable d = .ok () ∧ ∃ after, store.register d = .ok after := by
  have free : ∀ name ∈ d.spellings, store.names.checkBindable name d.oid = .ok () := by
    intro name member
    rw [NameMap.checkBindable_eq_ok_iff]
    intro other found
    rw [NameMap.get?, unbound _ (List.mem_map_of_mem member)] at found
    simp at found
  have registrable := checkRegistrable_eq_ok_iff.2 ⟨absent, free⟩
  exact ⟨registrable, exists_register_iff.2 registrable⟩

theorem Coherent.eq_of_get? {first second : Store} (one : first.Coherent) (two : second.Coherent)
    (same : ∀ oid, first.get? oid = second.get? oid) : first = second := by
  have definitions : first.definitions = second.definitions :=
    Std.ExtTreeMap.ext_getElem? fun {oid} => same oid
  have names : first.names = second.names := by
    refine NameMap.ext_bindings fun key => Option.ext fun oid => ?_
    rw [one.named, two.named]
    simp only [same]
  cases first
  cases second
  cases names
  cases definitions
  rfl

end Store

namespace Registry

/-- A registry is known by what is stored in it: names and index follow. -/
theorem Sound.eq_of_get? {first second : Registry} (one : first.Sound) (two : second.Sound)
    (kind : first.kind = second.kind) (policy : first.policy = second.policy)
    (same : ∀ oid, first.store.get? oid = second.store.get? oid) : first = second := by
  have store := one.coherent.eq_of_get? two.coherent same
  have current := one.current
  rw [store] at current
  have index := current.unique two.current
  cases first
  cases second
  cases kind
  cases policy
  cases store
  cases index
  rfl

theorem Reached.eq_of_get? {first second : Registry} (one : first.Reached) (two : second.Reached)
    (kind : first.kind = second.kind) (policy : first.policy = second.policy)
    (same : ∀ oid, first.store.get? oid = second.store.get? oid) : first = second :=
  one.sound.eq_of_get? two.sound kind policy same

/-- A definition that a registry takes, and the superiors that it is then stored with. -/
structure Accepts (registry : Registry) (d : Definition) (superiors : List String) : Prop where
  fits : d.kind = registry.kind
  named : ∀ name ∈ d.names, checkName name = .ok ()
  absent : registry.store.get? d.oid.text = none
  unbound : ∀ key ∈ d.keys, registry.store.names.bindings[key]? = none
  resolved : registry.resolveSuperiors d = .ok superiors
  apart : ∀ superior ∈ superiors, ¬ ReflTransGen registry.store.Names superior d.oid.text

/-- What is left of the checks once kind, names and bindings are in order. -/
theorem prepare_of_registrable {registry : Registry} {d : Definition}
    (fits : d.kind = registry.kind) (named : ∀ name ∈ d.names, checkName name = .ok ())
    (registrable : registry.store.checkRegistrable d = .ok ()) :
    registry.prepare d = registry.resolveSuperiors d >>= fun superiors =>
      registry.checkAcyclic d.oid.text superiors >>= fun _ => .ok { d with superiors } := by
  unfold prepare
  rw [forM_eq_ok_iff.2 named, registrable, if_neg (not_not_intro fits)]
  rfl

/-- What a registry accepts it takes. -/
theorem Accepts.register {registry : Registry} {d : Definition} {superiors : List String}
    (accepts : registry.Accepts d superiors) :
    ∃ after, registry.register d = .ok ({ d with superiors }, after) := by
  obtain ⟨checked, _⟩ := Store.register_of_unbound accepts.absent accepts.unbound
  obtain ⟨_, store, stores⟩ :=
    @Store.register_of_unbound registry.store { d with superiors } accepts.absent accepts.unbound
  exact ⟨_, register_eq_ok_iff.2 ⟨prepare_eq_ok_iff.2 ⟨accepts.fits, accepts.named, checked,
    superiors, accepts.resolved, accepts.apart, rfl⟩, store, stores, rfl⟩⟩

/-- What a registry has taken it accepted, which says when one takes a definition without running
its checks. -/
theorem Reached.accepts_of_register {registry after : Registry} (reached : registry.Reached)
    {d stored : Definition} (run : registry.register d = .ok (stored, after)) :
    ∃ superiors, registry.Accepts d superiors ∧ stored = { d with superiors } := by
  obtain ⟨passes, store, stores, _⟩ := register_eq_ok_iff.1 run
  obtain ⟨fits, named, _, superiors, resolved, apart, rfl⟩ := prepare_eq_ok_iff.1 passes
  obtain ⟨absent, free, _, _⟩ := Store.register_cases stores
  have unbound : ∀ key ∈ d.keys, registry.store.names.bindings[key]? = none :=
    fun _ own => reached.sound.coherent.unbound absent free own
  exact ⟨superiors, ⟨fits, named, absent, unbound, resolved, apart⟩, rfl⟩

/-- What is stored in a registry is in the way of nothing in one that holds some of the others: no two of
them have a key in common, and no chain leads back to it from its superiors. -/
theorem Reached.free_of_part {registry part : Registry} (reached : registry.Reached)
    (between : part.Reached)
    (within : ∀ oid e, part.store.get? oid = some e → registry.store.get? oid = some e)
    {d : Definition} (stored : registry.store.get? d.oid.text = some d)
    (absent : part.store.get? d.oid.text = none) :
    (∀ key ∈ d.keys, part.store.names.bindings[key]? = none) ∧
      ∀ superior ∈ d.superiors, ¬ ReflTransGen part.store.Names superior d.oid.text := by
  constructor
  · intro key own
    refine Option.eq_none_iff_forall_ne_some.2 fun oid bound => ?_
    obtain ⟨e, held, shared⟩ := between.sound.coherent.named.1 bound
    have one := reached.sound.coherent.named.2 ⟨e, within _ _ held, shared⟩
    have two := reached.sound.coherent.named.2 ⟨d, stored, own⟩
    have same : oid = d.oid := Option.some.inj (one.symm.trans two)
    rw [same, absent] at held
    simp at held
  · intro superior named chain
    have grows : part.store.Names ≤ registry.store.Names := by
      rintro sub sup ⟨e, held, above⟩
      exact ⟨e, within _ _ held, above⟩
    have before := ReflTransGen.mono grows _ _ chain
    exact reached.sound.acyclic _ (.head' ⟨d, stored, named⟩ before)

/-- A registry after a definition has been registered differs from the one before in that alone. -/
theorem get?_register {registry after : Registry} {d stored : Definition}
    (run : registry.register d = .ok (stored, after)) :
    after.kind = registry.kind ∧ after.policy = registry.policy ∧
      ∀ oid, after.store.get? oid =
        if oid = stored.oid.text then some stored else registry.store.get? oid := by
  obtain ⟨_, store, stores, rfl⟩ := register_eq_ok_iff.1 run
  obtain ⟨_, _, definitions, _⟩ := Store.register_cases stores
  exact ⟨rfl, rfl, Store.get?_of_insert definitions⟩

/-- A registry after a definition has been removed differs from the one before in that alone. -/
theorem Reached.get?_unregister {registry after : Registry} (reached : registry.Reached)
    {name : String} {d : Definition} (run : registry.unregister name = .ok (d, after)) :
    after.kind = registry.kind ∧ after.policy = registry.policy ∧
      registry.store.get? d.oid.text = some d ∧
      ∀ oid, after.store.get? oid = if oid = d.oid.text then none else registry.store.get? oid := by
  obtain ⟨store, removes, rfl⟩ := unregister_eq_ok_iff.1 run
  obtain ⟨oid, _, stored, definitions, _⟩ := Store.unregister_cases removes
  obtain rfl := Oid.eq_of_text (reached.sound.coherent.keyed stored)
  exact ⟨rfl, rfl, stored, Store.get?_of_erase definitions⟩

end Registry

end Subschema
