import Subschema.Proofs.Batch
import Subschema.Proofs.Documents

namespace Subschema

namespace Registry

/-- A copy holds what the registry holds and has its indexes, so it is the registry. -/
theorem Reached.copy_eq {registry : Registry} (reached : registry.Reached) :
    registry.copy = registry := by
  have sound := reached.sound
  have index := (Index.rebuild_current sound.coherent).unique sound.current
  rw [copy, index]

theorem size_register {registry after : Registry} {d stored : Definition}
    (run : registry.register d = .ok (stored, after)) : after.size = registry.size + 1 := by
  obtain ⟨_, store, stores, rfl⟩ := register_eq_ok_iff.1 run
  obtain ⟨absent, _, definitions, _⟩ := Store.register_cases stores
  have fresh : stored.oid.text ∉ registry.store.definitions := by
    rw [Std.ExtTreeMap.mem_iff_isSome_getElem?, ← Store.get?, absent]
    simp
  rw [size, size, Store.size, Store.size, definitions, Std.ExtTreeMap.size_insert, if_neg]
  rwa [Std.ExtTreeMap.contains_iff_mem]

end Registry

namespace Bundle

theorem size_registerAll {registry after : Registry} {batch : List Definition}
    (run : registerAll registry batch = .ok after) :
    after.size = registry.size + batch.length := by
  induction batch generalizing registry with
  | nil =>
    cases Except.ok.inj run
    rfl
  | cons d batch ih =>
    obtain ⟨stored, mid, first, later⟩ := registerAll_cons_eq_ok_iff.1 run
    rw [ih later, Registry.size_register first, List.length_cons]
    omega

end Bundle

namespace Schema

theorem registry_setRegistry (schema : Schema) (kind other : Kind) (registry : Registry) :
    (schema.setRegistry kind registry).registry other =
      if other = kind then registry else schema.registry other := by
  cases kind <;> cases other <;> rfl

theorem ext_registry {first second : Schema}
    (same : ∀ kind, first.registry kind = second.registry kind) : first = second := by
  have classes : first.objectClasses = second.objectClasses := same .objectClass
  have types : first.attributeTypes = second.attributeTypes := same .attributeType
  cases first
  cases second
  cases classes
  cases types
  rfl

/-- Both registries are ones that calls have led to. -/
def Sound (schema : Schema) : Prop :=
  ∀ kind, (schema.registry kind).Reached

theorem Sound.copy_eq {schema : Schema} (sound : schema.Sound) : schema.copy = schema :=
  ext_registry fun kind => by
    cases kind with
    | objectClass => exact (sound .objectClass).copy_eq
    | attributeType => exact (sound .attributeType).copy_eq

end Schema

namespace Bundle

/-- One kind of definition is loaded by decoding its entries and registering what they stand for. -/
theorem loadKind_eq_ok_iff {listing : Listing} {documents : List (String × Document)}
    {schema after : Schema} {kind : Kind} {count : Nat} :
    loadKind listing documents schema kind = .ok (count, after) ↔
      ∃ batch registry, Stands kind (entries documents kind) batch ∧
        registerBatch listing (schema.registry kind) batch = .ok registry ∧ count = batch.length ∧
        after = schema.setRegistry kind registry := by
  unfold loadKind
  constructor
  · intro run
    obtain ⟨batch, reads, run⟩ := bind_eq_ok_iff.1 run
    obtain ⟨registry, registers, run⟩ := bind_eq_ok_iff.1 run
    cases Except.ok.inj run
    exact ⟨batch, registry, definitions_eq_ok_iff.1 reads, registers, rfl, rfl⟩
  · rintro ⟨batch, registry, stands, registers, rfl, rfl⟩
    exact bind_eq_ok_iff.2 ⟨batch, definitions_eq_ok_iff.2 stands,
      bind_eq_ok_iff.2 ⟨registry, registers, rfl⟩⟩

/-- The report of a load that has succeeded. -/
abbrev fullReport (bundle : Bundle) (documents : List (String × Document)) : Report :=
  bundle.report documents (entries documents .objectClass).length
    (entries documents .attributeType).length

section Loads

variable {schema after : Schema} (sound : schema.Sound) {bundle : Bundle} {outcome : Report}

include sound

/-- A load registers the batch of each kind on its own. -/
theorem loadBy_eq_ok_iff {listing : Listing} :
    bundle.loadBy listing schema = .ok (outcome, after) ↔
      ∃ documents, bundle.documents = .ok documents ∧ outcome = bundle.fullReport documents ∧
        ∀ kind, ∃ batch, Stands kind (entries documents kind) batch ∧
          registerBatch listing (schema.registry kind) batch = .ok (after.registry kind) := by
  unfold loadBy
  constructor
  · intro run
    obtain ⟨documents, decoded, run⟩ := bind_eq_ok_iff.1 run
    unfold loadDocuments at run
    obtain ⟨⟨types, mid⟩, first, run⟩ := bind_eq_ok_iff.1 run
    obtain ⟨⟨classes, last⟩, second, run⟩ := bind_eq_ok_iff.1 run
    obtain ⟨rfl, rfl⟩ := Prod.mk.inj (Except.ok.inj run)
    rw [sound.copy_eq] at first
    obtain ⟨lower, lowest, standsLower, registersLower, rfl, rfl⟩ := loadKind_eq_ok_iff.1 first
    obtain ⟨upper, highest, standsUpper, registersUpper, rfl, rfl⟩ := loadKind_eq_ok_iff.1 second
    refine ⟨documents, decoded, ?_, fun kind => ?_⟩
    · rw [fullReport, standsLower.length_eq, standsUpper.length_eq]
    · cases kind with
      | objectClass => exact ⟨upper, standsUpper, registersUpper⟩
      | attributeType => exact ⟨lower, standsLower, registersLower⟩
  · rintro ⟨documents, decoded, rfl, each⟩
    obtain ⟨lower, standsLower, registersLower⟩ := each .attributeType
    obtain ⟨upper, standsUpper, registersUpper⟩ := each .objectClass
    refine bind_eq_ok_iff.2 ⟨documents, decoded, ?_⟩
    rw [sound.copy_eq, loadDocuments]
    refine bind_eq_ok_iff.2 ⟨_, loadKind_eq_ok_iff.2
      ⟨lower, _, standsLower, registersLower, rfl, rfl⟩, ?_⟩
    refine bind_eq_ok_iff.2 ⟨_, loadKind_eq_ok_iff.2
      ⟨upper, _, standsUpper, registersUpper, rfl, rfl⟩, ?_⟩
    rw [fullReport, standsLower.length_eq, standsUpper.length_eq]
    rfl

/-- What a load makes of a schema does not depend on how the registered definitions are listed. -/
theorem loadBy_relisted (listing other : Listing) :
    bundle.loadBy listing schema = .ok (outcome, after) ↔
      bundle.loadBy other schema = .ok (outcome, after) := by
  simp only [loadBy_eq_ok_iff sound, registerBatch_eq_ok_iff _ (sound _)]

variable {documents : List (String × Document)} (decoded : bundle.documents = .ok documents)
  {batch : Kind → List Definition} (stands : ∀ kind, Stands kind (entries documents kind) (batch kind))

include decoded stands

/-- Once its documents have been read, a bundle is loaded exactly if for each kind there is an order
in which the definitions are registered throughout. -/
theorem loadBy_iff {listing : Listing} :
    bundle.loadBy listing schema = .ok (outcome, after) ↔ outcome = bundle.fullReport documents ∧
      ∀ kind, ∃ order, order.Perm (batch kind) ∧
        registerAll (schema.registry kind) order = .ok (after.registry kind) := by
  simp only [loadBy_eq_ok_iff sound, decoded, Except.ok.injEq, exists_eq_left',
    ← registerBatch_eq_ok_iff listing (sound _)]
  refine and_congr_right fun _ => forall_congr' fun kind => ?_
  constructor
  · rintro ⟨other, again, registers⟩
    rwa [(stands kind).unique again]
  · exact fun registers => ⟨batch kind, stands kind, registers⟩

/-- Any order in which the definitions of a kind go in leaves the registry that a load leaves. -/
theorem registry_of_loadBy {listing : Listing} (run : bundle.loadBy listing schema = .ok (outcome, after))
    {kind : Kind} {order : List Definition} {registry : Registry} (perm : order.Perm (batch kind))
    (registers : registerAll (schema.registry kind) order = .ok registry) :
    after.registry kind = registry := by
  obtain ⟨_, each⟩ := (loadBy_iff sound decoded stands).1 run
  have loaded := (registerBatch_eq_ok_iff listing (sound kind)).2 (each kind)
  have again := (registerBatch_eq_ok_iff listing (sound kind)).2 ⟨order, perm, registers⟩
  exact Except.ok.inj (loaded.symm.trans again)

/-- A load adds its definitions to each registry, and keeps those that are there. -/
theorem extends_of_loadBy {listing : Listing} (run : bundle.loadBy listing schema = .ok (outcome, after))
    (kind : Kind) : (after.registry kind).Extends (schema.registry kind) (batch kind) := by
  obtain ⟨_, each⟩ := (loadBy_iff sound decoded stands).1 run
  obtain ⟨order, perm, registers⟩ := each kind
  exact (extends_of_registerAll (sound kind) registers).2.perm perm

theorem size_of_loadBy {listing : Listing} (run : bundle.loadBy listing schema = .ok (outcome, after))
    (kind : Kind) : (after.registry kind).size =
      (schema.registry kind).size + (entries documents kind).length := by
  obtain ⟨_, each⟩ := (loadBy_iff sound decoded stands).1 run
  obtain ⟨order, perm, registers⟩ := each kind
  rw [size_registerAll registers, perm.length_eq, (stands kind).length_eq]

/-- A bundle with a definition that is registered already is refused. -/
theorem exists_loadBy_eq_error {kind : Kind} {d : Definition} (member : d ∈ batch kind)
    (held : (schema.registry kind).store.get? d.oid.text ≠ none) (listing : Listing) :
    ∃ e, bundle.loadBy listing schema = .error e := by
  cases loads : bundle.loadBy listing schema with
  | error e => exact ⟨e, rfl⟩
  | ok done =>
    have extension := extends_of_loadBy sound decoded stands loads kind
    exact absurd (extension.fresh d member) held

/-- The order of the entries does not matter. -/
theorem loadBy_perm {listing relisting : Listing} {other : Bundle} {others : List (String × Document)}
    (decodedOther : other.documents = .ok others)
    (same : ∀ kind, (entries others kind).Perm (entries documents kind)) :
    (∃ outcome, bundle.loadBy listing schema = .ok (outcome, after)) ↔
      ∃ outcome, other.loadBy relisting schema = .ok (outcome, after) := by
  choose arranged standsOther arranges using fun kind => (stands kind).perm (same kind)
  simp only [loadBy_iff sound decoded stands, loadBy_iff sound decodedOther standsOther,
    exists_and_right, exists_eq, true_and]
  refine forall_congr' fun kind => exists_congr fun order => and_congr_left fun _ => ?_
  exact ⟨fun perm => perm.trans (arranges kind).symm, fun perm => perm.trans (arranges kind)⟩

end Loads

end Bundle

end Subschema
