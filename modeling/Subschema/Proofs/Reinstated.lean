import Subschema.Proofs.Accepted
import Subschema.Proofs.RoundTrip

namespace Subschema

open Relation

/-- Reading a list fails with the first of its items that cannot be read. -/
theorem mapM_eq_error_of_find? {ε β γ : Type} {read : β → Except ε γ} {bad : β → Bool}
    {items : List β} {first : β} {e : ε}
    (passes : ∀ item ∈ items, bad item = false → ∃ result, read item = .ok result)
    (fails : read first = .error e) (found : items.find? bad = some first) :
    items.mapM read = .error e := by
  induction items with
  | nil => simp at found
  | cons item items ih =>
    rw [List.mapM_cons]
    rw [List.find?_cons] at found
    split at found
    · cases Option.some.inj found
      rw [fails]
      rfl
    · rename_i fine
      obtain ⟨result, reads⟩ := passes item List.mem_cons_self fine
      rw [reads, ih (fun other later => passes other (List.mem_cons_of_mem _ later)) found]
      rfl

namespace Registry

theorem Reached.unregister_of_resolve {registry : Registry} (reached : registry.Reached)
    {name : String} {oid : Oid} (resolves : registry.resolve name = .ok oid) :
    ∃ d after, registry.unregister name = .ok (d, after) ∧ d.oid = oid := by
  have found : registry.store.names.get? name = some oid := by
    unfold resolve NameMap.resolve at resolves
    split at resolves
    · rename_i other found
      rw [found, Except.ok.inj resolves]
    · simp at resolves
  have coherent := reached.sound.coherent
  obtain ⟨d, stored, _⟩ := coherent.named.1 found
  exact ⟨d, _, unregister_eq_ok_iff.2 ⟨_, Store.unregister_eq_ok found stored, rfl⟩,
    Oid.eq_of_text (coherent.keyed stored)⟩

/-- A superior in canonical form stands for itself if a registry knows it or lets it wait. -/
theorem Reached.resolveSuperior_of_canonical {registry : Registry} (reached : registry.Reached)
    {d : Definition} {kind : Kind} (canonical : d.Canonical kind) {superior : String}
    (member : superior ∈ d.superiors) :
    registry.resolveSuperior d superior =
      if superior = d.oid.text ∨ registry.store.contains superior = true ∨
          registry.policy = .defer then
        .ok superior
      else .error (.nameNotFound superior) := by
  have numeric := canonical.numeric superior member
  have trimmed := Text.trim_of_plain (plain_of_isNumericOid numeric)
  rw [reached.resolveSuperior_of_isNumericOid canonical.named (by rwa [trimmed]), trimmed]

theorem Reached.resolveSuperiors_of_canonical {registry : Registry} (reached : registry.Reached)
    {d : Definition} {kind : Kind} (canonical : d.Canonical kind)
    (allowed : ∀ superior ∈ d.superiors,
      registry.store.contains superior = true ∨ registry.policy = .defer) :
    registry.resolveSuperiors d = .ok d.superiors := by
  refine resolveSuperiors_eq_ok_iff.2 ⟨d.superiors, ?_, (eraseDups_of_nodup canonical.distinct).symm⟩
  refine List.forall₂_same.2 fun superior member => ?_
  rw [reached.resolveSuperior_of_canonical canonical member,
    if_pos (Or.inr (allowed superior member))]

/-- Removing a definition frees its identifier and all its spellings. -/
theorem Reached.free_of_unregister {registry after : Registry} (reached : registry.Reached)
    {name : String} {d : Definition} (run : registry.unregister name = .ok (d, after)) :
    after.store.get? d.oid.text = none ∧
      ∀ key ∈ d.keys, after.store.names.bindings[key]? = none := by
  obtain ⟨store, removes, rfl⟩ := unregister_eq_ok_iff.1 run
  obtain ⟨oid, _, stored, definitions, bindings⟩ := Store.unregister_cases removes
  obtain rfl := Oid.eq_of_text (reached.sound.coherent.keyed stored)
  refine ⟨?_, fun key own => ?_⟩
  · rw [Store.get?_of_erase definitions, if_pos rfl]
  · rw [bindings, if_pos own]

/-- What is stored in a registry is taken as it is by one that holds some of the others. -/
theorem Reached.accepts_stored {registry part : Registry} (reached : registry.Reached)
    (between : part.Reached) (kind : part.kind = registry.kind)
    (within : ∀ oid e, part.store.get? oid = some e → registry.store.get? oid = some e)
    {d : Definition} (stored : registry.store.get? d.oid.text = some d)
    (absent : part.store.get? d.oid.text = none)
    (allowed : ∀ superior ∈ d.superiors,
      part.store.contains superior = true ∨ part.policy = .defer) :
    part.Accepts d d.superiors := by
  have canonical := reached.canonical _ d stored
  obtain ⟨unbound, apart⟩ := reached.free_of_part between within stored absent
  exact ⟨canonical.fits.trans kind.symm, canonical.named, absent, unbound,
    between.resolveSuperiors_of_canonical canonical allowed, apart⟩

/-- The checks that let a definition in let it in again after it has been removed. -/
theorem Reached.accepts_unregistered {registry after : Registry} (reached : registry.Reached)
    {name : String} {d : Definition} (run : registry.unregister name = .ok (d, after))
    (allowed : ∀ superior ∈ d.superiors,
      after.store.contains superior = true ∨ after.policy = .defer) :
    after.Accepts d d.superiors := by
  obtain ⟨kind, _, stored, erased⟩ := reached.get?_unregister run
  have within : ∀ oid e, after.store.get? oid = some e → registry.store.get? oid = some e := by
    intro oid e kept
    rw [erased] at kept
    split at kept
    · simp at kept
    · exact kept
  exact reached.accepts_stored (reached.unregister run) kind within stored
    (reached.free_of_unregister run).1 allowed

/-- A definition that has been removed is taken again, and everything is as it was. -/
theorem Reached.register_removed {registry after : Registry} (reached : registry.Reached)
    {name : String} {d : Definition} (run : registry.unregister name = .ok (d, after))
    (allowed : ∀ superior ∈ d.superiors,
      after.store.contains superior = true ∨ after.policy = .defer) :
    after.register d = .ok (d, registry) := by
  obtain ⟨again, registers⟩ := (reached.accepts_unregistered run allowed).register
  have between := reached.unregister run
  obtain ⟨kind, policy, stored, erased⟩ := reached.get?_unregister run
  obtain ⟨kept, held, inserted⟩ := get?_register registers
  have same : again = registry := by
    refine (between.register registers).eq_of_get? reached (kept.trans kind) (held.trans policy) ?_
    intro oid
    rw [inserted, erased]
    by_cases own : oid = d.oid.text
    · rw [own, if_pos rfl, stored]
    · rw [if_neg own, if_neg own]
  rw [same] at registers
  exact registers

/-- A superior that is not registered is refused where superiors may not wait, and the first one is
reported. -/
theorem Reached.register_removed_dangling {registry after : Registry} (reached : registry.Reached)
    {name : String} {d : Definition} (run : registry.unregister name = .ok (d, after))
    (rejects : after.policy = .reject) {missing : String}
    (first : d.superiors.find? (fun superior => !after.store.contains superior) = some missing) :
    after.register d = .error (.nameNotFound missing) := by
  have between := reached.unregister run
  obtain ⟨kind, _, stored, erased⟩ := reached.get?_unregister run
  have canonical := reached.canonical _ d stored
  have resolve : ∀ superior ∈ d.superiors, after.resolveSuperior d superior =
      if after.store.contains superior = true then .ok superior
      else .error (.nameNotFound superior) := by
    intro superior member
    have other : superior ≠ d.oid.text := by
      rintro rfl
      exact reached.sound.acyclic _ (.single ⟨d, stored, member⟩)
    rw [between.resolveSuperior_of_canonical canonical member]
    simp [other, rejects]
  have unknown := List.find?_some first
  rw [Bool.not_eq_true'] at unknown
  have fails : after.resolveSuperiors d = .error (.nameNotFound missing) := by
    have reads : d.superiors.mapM (after.resolveSuperior d) = .error (.nameNotFound missing) := by
      refine mapM_eq_error_of_find? (fun superior member known => ⟨superior, ?_⟩) ?_ first
      · rw [resolve superior member, if_pos (by simpa using known)]
      · rw [resolve missing (List.mem_of_find?_eq_some first), unknown, if_neg Bool.false_ne_true]
    rw [resolveSuperiors, reads]
    rfl
  obtain ⟨absent, unbound⟩ := reached.free_of_unregister run
  obtain ⟨checked, _⟩ := Store.register_of_unbound absent unbound
  have fits : d.kind = after.kind := canonical.fits.trans kind.symm
  rw [Registry.register, prepare_of_registrable fits canonical.named checked, fails]
  rfl

/-- Removing what a name stands for and registering it again gives the registry back, indexes and
all, whenever superiors may wait. Where they may not, that is so exactly if all superiors of the
definition are registered; else the first that is not is reported, and the definition stays out. -/
theorem Reached.register_unregister {registry : Registry} (reached : registry.Reached)
    {name : String} {oid : Oid} (resolves : registry.resolve name = .ok oid) :
    ∃ d after, registry.unregister name = .ok (d, after) ∧ d.oid = oid ∧
      (registry.policy = .defer → after.register d = .ok (d, registry)) ∧
      (registry.policy = .reject →
        (after.register d = .ok (d, registry) ↔
          ∀ superior ∈ d.superiors, after.store.contains superior = true) ∧
        ((¬ ∀ superior ∈ d.superiors, after.store.contains superior = true) →
          ∃ missing, d.superiors.find? (fun superior => !after.store.contains superior) =
              some missing ∧
            after.register d = .error (.nameNotFound missing) ∧
            after.after (.register d) = after)) := by
  obtain ⟨d, after, run, same⟩ := reached.unregister_of_resolve resolves
  obtain ⟨_, policy, _, _⟩ := reached.get?_unregister run
  refine ⟨d, after, run, same, fun defers => ?_, fun rejects => ?_⟩
  · exact reached.register_removed run fun _ _ => Or.inr (policy.trans defers)
  · have dangling : (¬ ∀ superior ∈ d.superiors, after.store.contains superior = true) →
        ∃ missing, d.superiors.find? (fun superior => !after.store.contains superior) =
            some missing ∧
          after.register d = .error (.nameNotFound missing) := by
      intro some
      obtain ⟨superior, member, absent⟩ := by simpa using some
      obtain ⟨missing, first⟩ := Option.isSome_iff_exists.1
        (List.find?_isSome.2 ⟨superior, member, by simp [absent]⟩ :
          (d.superiors.find? fun superior => !after.store.contains superior).isSome = true)
      exact ⟨missing, first, reached.register_removed_dangling run (policy.trans rejects) first⟩
    refine ⟨⟨fun registers => ?_, fun known => ?_⟩, fun some => ?_⟩
    · by_contra some
      obtain ⟨missing, _, fails⟩ := dangling some
      simp [fails] at registers
    · exact reached.register_removed run fun superior member => Or.inl (known superior member)
    · obtain ⟨missing, first, fails⟩ := dangling some
      exact ⟨missing, first, fails, by simp only [Registry.after, fails]⟩

end Registry

namespace Sample

def topStore : Store :=
  ⟨⟨(Std.ExtTreeMap.insert ∅ "2.5.6.0" top.oid).insert "top" top.oid⟩,
    Std.ExtTreeMap.insert ∅ "2.5.6.0" top⟩

def bothStore : Store :=
  ⟨⟨(topStore.names.bindings.insert "2.5.6.6" person.oid).insert "person" person.oid⟩,
    topStore.definitions.insert "2.5.6.6" person⟩

def orphanStore : Store :=
  ⟨⟨(bothStore.names.bindings.erase "2.5.6.0").erase "top"⟩, bothStore.definitions.erase "2.5.6.0"⟩

def strictTop : Registry :=
  { kind := .objectClass, policy := .reject, store := topStore, index := Index.enter {} topStore top }

def strictBoth : Registry :=
  { strictTop with store := bothStore, index := strictTop.index.enter bothStore person }

def orphaned : Registry :=
  { strictBoth with store := orphanStore, index := strictBoth.index.withdraw orphanStore top }

theorem register_strictTop :
    ({ kind := .objectClass, policy := .reject } : Registry).register top = .ok (top, strictTop) :=
  Registry.register_eq_ok_iff.2 ⟨Registry.prepare_eq_ok_iff.2 ⟨rfl, by decide, by decide +kernel,
    [], rfl, by simp, rfl⟩, topStore, by decide +kernel, rfl⟩

theorem register_strictBoth : strictTop.register person = .ok (person, strictBoth) := by
  have apart : ∀ superior ∈ ["2.5.6.0"],
      ¬ ReflTransGen strictTop.store.Names superior person.oid.text := by
    intro superior member chain
    rw [List.mem_singleton.1 member] at chain
    rcases ReflTransGen.cases_head chain with same | ⟨_, ⟨d, stored, named⟩, _⟩
    · exact absurd same (by decide)
    · have held : strictTop.store.get? "2.5.6.0" = some top := by decide +kernel
      cases Option.some.inj (held.symm.trans stored)
      simp [top] at named
  exact Registry.register_eq_ok_iff.2 ⟨Registry.prepare_eq_ok_iff.2 ⟨rfl, by decide,
    by decide +kernel, ["2.5.6.0"], by decide +kernel, apart, rfl⟩, bothStore, by decide +kernel, rfl⟩

theorem unregister_orphaned : strictBoth.unregister "top" = .ok (top, orphaned) :=
  Registry.unregister_eq_ok_iff.2 ⟨orphanStore, by decide +kernel, rfl⟩

theorem strictBoth_reached : strictBoth.Reached :=
  ((Registry.Reached.empty _ _).register register_strictTop).register register_strictBoth

theorem orphaned_reached : orphaned.Reached := strictBoth_reached.unregister unregister_orphaned

theorem toList_strictBoth : strictBoth.store.toList = full.store.toList := by decide +kernel

end Sample

/-- In the second registry no superior may wait, and a superior has been removed. -/
theorem Registry.Reached.register_unregister_person :
    (∃ d after, Sample.full.unregister " Person" = .ok (d, after) ∧
      after.register d = .ok (d, Sample.full)) ∧
    ∃ d after, Sample.orphaned.unregister "2.5.6.6" = .ok (d, after) ∧
      after.register d = .error (.nameNotFound "2.5.6.0") := by
  constructor
  · obtain ⟨d, after, run, _, defers, _⟩ := register_unregister Sample.full_reached
      (by decide +kernel : Sample.full.resolve " Person" = .ok Sample.person.oid)
    exact ⟨d, after, run, defers rfl⟩
  · obtain ⟨d, after, run, same, _, rejects⟩ := register_unregister Sample.orphaned_reached
      (by decide +kernel : Sample.orphaned.resolve "2.5.6.6" = .ok Sample.person.oid)
    obtain ⟨_, _, stored, erased⟩ := Sample.orphaned_reached.get?_unregister run
    have held : Sample.orphaned.store.get? "2.5.6.6" = some Sample.person := by decide +kernel
    rw [same] at stored
    cases Option.some.inj (held.symm.trans stored)
    have absent : after.store.contains "2.5.6.0" = false := by
      rw [Store.contains_eq_false_iff, erased]
      decide +kernel
    obtain ⟨missing, first, fails, _⟩ := (rejects rfl).2 fun known => by
      have stored := known "2.5.6.0" List.mem_cons_self
      simp [absent] at stored
    have named : missing ∈ ["2.5.6.0"] := List.mem_of_find?_eq_some first
    rw [List.mem_singleton.1 named] at fails
    exact ⟨_, after, run, fails⟩

end Subschema
