import Subschema.Proofs.Current
import Subschema.Registry

namespace Subschema

open Relation

theorem bind_eq_ok_iff {ε β γ : Type} {first : Except ε β} {rest : β → Except ε γ} {c : γ} :
    first >>= rest = .ok c ↔ ∃ b, first = .ok b ∧ rest b = .ok c := by
  cases first with
  | error e => simp [bind, Except.bind]
  | ok b => simp [bind, Except.bind]

theorem map_eq_ok_iff {ε β γ : Type} {first : Except ε β} {change : β → γ} {c : γ} :
    first.map change = .ok c ↔ ∃ b, first = .ok b ∧ change b = c := by
  cases first with
  | error e => simp [Except.map]
  | ok b => simp [Except.map]

theorem forall_mem_of_mapM_eq_ok {ε β γ : Type} {read : β → Except ε γ} {fine : γ → Prop}
    (one : ∀ b c, read b = .ok c → fine c) {items : List β} {results : List γ}
    (run : items.mapM read = .ok results) : ∀ c ∈ results, fine c := by
  induction items generalizing results with
  | nil =>
    cases Except.ok.inj run
    simp
  | cons item items ih =>
    rw [List.mapM_cons] at run
    obtain ⟨c, first, run⟩ := bind_eq_ok_iff.1 run
    obtain ⟨rest, later, run⟩ := bind_eq_ok_iff.1 run
    cases Except.ok.inj run
    exact List.forall_mem_cons.2 ⟨one item c first, ih later⟩

namespace Registry

theorem resolveSuperior_numeric {registry : Registry} {d : Definition} {reference superior : String}
    (run : registry.resolveSuperior d reference = .ok superior) :
    isNumericOid superior.toList = true := by
  unfold resolveSuperior at run
  simp only at run
  split at run
  · cases Except.ok.inj run
    exact d.oid.numeric
  · split at run
    · rename_i oid _
      cases Except.ok.inj run
      exact oid.numeric
    · split at run
      · rename_i deferred
        cases Except.ok.inj run
        exact deferred.2
      · simp at run

theorem checkAcyclic_eq_ok_iff {registry : Registry} {oid : String} {superiors : List String} :
    registry.checkAcyclic oid superiors = .ok () ↔
      ∀ superior ∈ superiors, ¬ ReflTransGen registry.store.Names superior oid := by
  refine Iff.trans ?_ walkTo?_eq_none_iff
  unfold checkAcyclic
  split
  · rename_i walk
    simp [walk]
  · rename_i fails
    simp [fails]

theorem resolveSuperiors_numeric {registry : Registry} {d : Definition} {superiors : List String}
    (run : registry.resolveSuperiors d = .ok superiors) :
    ∀ superior ∈ superiors, isNumericOid superior.toList = true := by
  unfold resolveSuperiors at run
  cases reads : d.superiors.mapM (registry.resolveSuperior d) with
  | error e => simp [reads, Except.map] at run
  | ok found =>
    rw [reads] at run
    cases Except.ok.inj run
    intro superior member
    exact forall_mem_of_mapM_eq_ok (fun _ _ => resolveSuperior_numeric) reads superior
      (List.mem_eraseDups.1 member)

/-- The checks that a definition has to pass, and that it is then stored with its resolved superiors
and otherwise as it was given. -/
theorem prepare_eq_ok_iff {registry : Registry} {d stored : Definition} :
    registry.prepare d = .ok stored ↔ d.kind = registry.kind ∧
      (∀ name ∈ d.names, checkName name = .ok ()) ∧ registry.store.checkRegistrable d = .ok () ∧
      ∃ superiors, registry.resolveSuperiors d = .ok superiors ∧
        (∀ superior ∈ superiors, ¬ ReflTransGen registry.store.Names superior d.oid.text) ∧
        stored = { d with superiors } := by
  unfold prepare
  by_cases fits : d.kind = registry.kind
  · simp only [fits, ne_eq, not_true_eq_false, if_false, true_and]
    constructor
    · intro run
      obtain ⟨_, named, run⟩ := bind_eq_ok_iff.1 run
      obtain ⟨_, registrable, run⟩ := bind_eq_ok_iff.1 run
      obtain ⟨superiors, resolved, run⟩ := bind_eq_ok_iff.1 run
      obtain ⟨_, acyclic, run⟩ := bind_eq_ok_iff.1 run
      exact ⟨forM_eq_ok_iff.1 named, registrable, superiors, resolved,
        checkAcyclic_eq_ok_iff.1 acyclic, (Except.ok.inj run).symm⟩
    · rintro ⟨named, registrable, superiors, resolved, apart, rfl⟩
      exact bind_eq_ok_iff.2 ⟨(), forM_eq_ok_iff.2 named, bind_eq_ok_iff.2 ⟨(), registrable,
        bind_eq_ok_iff.2 ⟨superiors, resolved, bind_eq_ok_iff.2
          ⟨(), checkAcyclic_eq_ok_iff.2 apart, rfl⟩⟩⟩⟩
  · simp [fits, throw, throwThe, MonadExceptOf.throw, bind, Except.bind]

theorem register_eq_ok_iff {registry after : Registry} {d stored : Definition} :
    registry.register d = .ok (stored, after) ↔
      registry.prepare d = .ok stored ∧ ∃ store, registry.store.register stored = .ok store ∧
        after = { registry with store, index := registry.index.enter store stored } := by
  constructor
  · intro run
    obtain ⟨prepared, passes, run⟩ := bind_eq_ok_iff.1 run
    obtain ⟨store, stores, run⟩ := bind_eq_ok_iff.1 run
    cases Except.ok.inj run
    exact ⟨passes, store, stores, rfl⟩
  · rintro ⟨passes, store, stores, rfl⟩
    exact bind_eq_ok_iff.2 ⟨stored, passes, bind_eq_ok_iff.2 ⟨store, stores, rfl⟩⟩

theorem unregister_eq_ok_iff {registry after : Registry} {name : String} {d : Definition} :
    registry.unregister name = .ok (d, after) ↔
      ∃ store, registry.store.unregister name = .ok (d, store) ∧
        after = { registry with store, index := registry.index.withdraw store d } := by
  constructor
  · intro run
    obtain ⟨⟨removed, store⟩, removes, run⟩ := bind_eq_ok_iff.1 run
    cases Except.ok.inj run
    exact ⟨store, removes, rfl⟩
  · rintro ⟨store, removes, rfl⟩
    exact bind_eq_ok_iff.2 ⟨(d, store), removes, rfl⟩

/-- What holds of every registry that calls have led to. -/
structure Sound (registry : Registry) : Prop where
  coherent : registry.store.Coherent
  current : registry.index.Current registry.store
  acyclic : ∀ oid, ¬ TransGen registry.store.Names oid oid
  numeric : ∀ {sub sup}, registry.store.Names sub sup → isNumericOid sup.toList = true

theorem sound_empty (kind : Kind) (policy : Policy) : Sound { kind, policy } := by
  have silent : ∀ sub sup, ¬ Store.Names {} sub sup := by
    rintro sub sup ⟨d, stored, _⟩
    simp [Store.get?] at stored
  refine ⟨Store.coherent_empty, ?_, fun oid chain => ?_, fun edge => (silent _ _ edge).elim⟩
  · exact Index.rebuild_current Store.coherent_empty
  · obtain ⟨_, edge, _⟩ := TransGen.head'_iff.1 chain
    exact silent _ _ edge

/-- A definition that is stored under an identifier of its own closes no loop, because no chain from
its superiors led to the identifier before. -/
theorem Sound.register {registry after : Registry} (sound : registry.Sound) {d stored : Definition}
    (run : registry.register d = .ok (stored, after)) : after.Sound := by
  obtain ⟨passes, store, stores, rfl⟩ := register_eq_ok_iff.1 run
  obtain ⟨_, _, _, superiors, resolved, apart, rfl⟩ := prepare_eq_ok_iff.1 passes
  obtain ⟨absent, _, definitions, _⟩ := Store.register_cases stores
  have gains := Store.gains_of_insert absent definitions
  refine ⟨sound.coherent.register stores, Index.enter_current sound.current absent definitions,
    fun oid loop => ?_, fun edge => ?_⟩
  · rcases (gains.transGen_iff oid oid).1 loop with old | ⟨toHub, superior, named, fromHub⟩
    · exact sound.acyclic oid old
    · exact apart superior named (fromHub.trans toHub)
  · rcases (gains _ _).1 edge with old | ⟨_, named⟩
    · exact sound.numeric old
    · exact resolveSuperiors_numeric resolved _ named

theorem Sound.unregister {registry after : Registry} (sound : registry.Sound) {name : String}
    {d : Definition} (run : registry.unregister name = .ok (d, after)) : after.Sound := by
  obtain ⟨store, removes, rfl⟩ := unregister_eq_ok_iff.1 run
  obtain ⟨oid, _, stored, definitions, _⟩ := Store.unregister_cases removes
  obtain rfl := Oid.eq_of_text (sound.coherent.keyed stored)
  have gains := Store.gains_of_erase stored definitions
  exact ⟨sound.coherent.unregister removes, Index.withdraw_current sound.current stored definitions,
    fun oid loop => sound.acyclic oid (TransGen.mono gains.le _ _ loop),
    fun edge => sound.numeric (gains.le _ _ edge)⟩

theorem Sound.copy {registry : Registry} (sound : registry.Sound) : registry.copy.Sound :=
  ⟨sound.coherent, Index.rebuild_current sound.coherent, sound.acyclic, sound.numeric⟩

end Registry

/-- What may be asked of a registry that changes it. -/
inductive Call where
  | register (d : Definition)
  | unregister (name : String)
  | copy

namespace Registry

/-- The registry after a call. A call that fails leaves it as it was. -/
def after (registry : Registry) : Call → Registry
  | .register d =>
    match registry.register d with
    | .ok (_, after) => after
    | .error _ => registry
  | .unregister name =>
    match registry.unregister name with
    | .ok (_, after) => after
    | .error _ => registry
  | .copy => registry.copy

/-- The registries that calls lead to from an empty one. -/
inductive Reached : Registry → Prop
  | empty (kind : Kind) (policy : Policy) : Reached { kind, policy }
  | next {registry : Registry} (call : Call) : Reached registry → Reached (registry.after call)

/-- Every call keeps a registry sound. -/
theorem Sound.after {registry : Registry} (sound : registry.Sound) (call : Call) :
    (registry.after call).Sound := by
  unfold Registry.after
  split
  · split
    · rename_i run
      exact sound.register run
    · exact sound
  · split
    · rename_i run
      exact sound.unregister run
    · exact sound
  · exact sound.copy

/-- What is true of every registry that calls have led to. -/
theorem Reached.sound {registry : Registry} (reached : registry.Reached) : registry.Sound := by
  induction reached with
  | empty kind policy => exact sound_empty kind policy
  | next call _ ih => exact ih.after call

theorem Reached.register {registry after : Registry} (reached : registry.Reached)
    {d stored : Definition} (run : registry.register d = .ok (stored, after)) : after.Reached := by
  have next := reached.next (.register d)
  simpa only [Registry.after, run] using next

theorem Reached.unregister {registry after : Registry} (reached : registry.Reached) {name : String}
    {d : Definition} (run : registry.unregister name = .ok (d, after)) : after.Reached := by
  have next := reached.next (.unregister name)
  simpa only [Registry.after, run] using next

end Registry

namespace Sample

def top : Definition := { oid := ⟨"2.5.6.0", by decide⟩, kind := .objectClass, names := ["top"] }

def person : Definition :=
  { oid := ⟨"2.5.6.6", by decide⟩, kind := .objectClass, names := ["person"],
    superiors := ["2.5.6.0"] }

def personStore : Store :=
  ⟨⟨(Std.ExtTreeMap.insert ∅ "2.5.6.6" person.oid).insert "person" person.oid⟩,
    Std.ExtTreeMap.insert ∅ "2.5.6.6" person⟩

def fullStore : Store :=
  ⟨⟨(personStore.names.bindings.insert "2.5.6.0" top.oid).insert "top" top.oid⟩,
    personStore.definitions.insert "2.5.6.0" top⟩

/-- The superior of the only definition is not registered. -/
def waiting : Registry :=
  { kind := .objectClass, store := personStore, index := Index.enter {} personStore person }

/-- The superior has come. -/
def full : Registry :=
  { waiting with store := fullStore, index := waiting.index.enter fullStore top }

theorem register_person :
    ({ kind := .objectClass } : Registry).register person = .ok (person, waiting) := by
  have apart : ∀ superior ∈ ["2.5.6.0"],
      ¬ ReflTransGen (Store.Names {}) superior person.oid.text := by
    intro superior member chain
    rcases ReflTransGen.cases_head chain with same | ⟨_, ⟨d, stored, _⟩, _⟩
    · rw [List.mem_singleton.1 member] at same
      exact absurd same (by decide)
    · simp [Store.get?] at stored
  exact Registry.register_eq_ok_iff.2 ⟨Registry.prepare_eq_ok_iff.2 ⟨rfl, by decide, by decide +kernel,
    ["2.5.6.0"], by decide +kernel, apart, rfl⟩, personStore, by decide +kernel, rfl⟩

theorem register_top : waiting.register top = .ok (top, full) :=
  Registry.register_eq_ok_iff.2 ⟨Registry.prepare_eq_ok_iff.2 ⟨rfl, by decide, by decide +kernel,
    [], rfl, by simp, rfl⟩, fullStore, by decide +kernel, rfl⟩

theorem waiting_reached : waiting.Reached :=
  (Registry.Reached.empty _ _).register register_person

/-- A definition is there before its superior. -/
theorem full_reached : full.Reached :=
  waiting_reached.register register_top

end Sample

end Subschema
