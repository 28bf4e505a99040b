import Subschema.Proofs.Batch
import Subschema.Proofs.Cycles
import Subschema.Proofs.Queries

namespace Subschema

open Relation

/-- The references that wait, in the order of their superiors: who names what. -/
def Registry.pendingReferences (registry : Registry) : List (String × String) :=
  registry.pendingSuperiors.flatMap fun (superior, waiting) => waiting.map fun oid => (oid, superior)

namespace Hierarchy

/-- What a graph of the definitions of a registry has in common with the registry, which finds its
own answers in its index. -/
structure Mirrors (graph : Hierarchy) (registry : Registry) : Prop where
  once : graph.nodes.Nodup
  nodes : ∀ oid, oid ∈ graph.nodes ↔ registry.store.contains oid = true
  /-- Below a definition is what a path along the edges leads from. -/
  inherits : ∀ subtype supertype sub sup, registry.lookup subtype = .ok sub →
    registry.lookup supertype = .ok sup →
    ∃ answer, registry.isDescendantOf subtype supertype = .ok answer ∧
      (answer = true ↔ TransGen graph.Edge sub.oid.text sup.oid.text)
  inherited : ∀ name sup, registry.lookup name = .ok sup →
    ∃ answer, registry.hasDescendants name = .ok answer ∧
      (answer = true ↔ graph.subtypesOf sup.oid.text ≠ [])
  /-- What leads nowhere is what waits, each reference once. -/
  unresolved : graph.unresolved.Perm registry.pendingReferences
  cycles : graph.cycles = []
  sorted : ∃ order, graph.superiorsFirst = .ok order

section Registered

variable {registry : Registry} (reached : registry.Reached) {definitions : List Definition}
  (same : definitions.Perm registry.store.toList)

include reached same

theorem nodup_of_perm : (definitions.map fun d => d.oid.text).Nodup :=
  ((same.map _).nodup_iff).2 reached.sound.coherent.nodup_toList

theorem mem_iff_of_perm {oid : String} {d : Definition} :
    d ∈ definitions ∧ d.oid.text = oid ↔ registry.store.get? oid = some d := by
  rw [same.mem_iff, reached.sound.coherent.get?_eq_some_iff]

/-- Stored superiors are identifiers, so they belong to what is stored under them. -/
theorem owner_of_perm {superior sup : String} (numeric : isNumericOid superior.toList = true) :
    (owners definitions)[nameKey superior]? = some sup ↔
      sup = superior ∧ registry.store.contains superior = true := by
  have bound : ∀ {key : String} {oid : Oid}, registry.store.names.bindings[key]? = some oid ↔
      ∃ d ∈ definitions, d.oid = oid ∧ key ∈ d.keys := by
    intro key oid
    simp only [reached.sound.coherent.binding_iff, same.mem_iff]
  rw [owner_iff_bound (nodup_of_perm reached same) bound]
  constructor
  · rintro ⟨oid, rfl, found⟩
    exact (reached.get?_of_isNumericOid numeric).1 found
  · rintro ⟨rfl, stored⟩
    exact ⟨⟨sup, numeric⟩, rfl, (reached.get?_of_isNumericOid numeric).2 ⟨rfl, stored⟩⟩

/-- The graph resolves references anew, by their keys and in any order of the definitions. It has
the edges of the store that lead to what is stored. -/
theorem edge_of_perm {sub sup : String} :
    (ofDefinitions definitions).Edge sub sup ↔
      registry.store.Names sub sup ∧ registry.store.contains sup = true := by
  rw [edge_ofDefinitions]
  constructor
  · rintro ⟨d, member, rfl, superior, named, belongs⟩
    have stored := (mem_iff_of_perm reached same).1 ⟨member, rfl⟩
    have numeric := (reached.canonical _ d stored).numeric superior named
    obtain ⟨rfl, known⟩ := (owner_of_perm reached same numeric).1 belongs
    exact ⟨⟨d, stored, named⟩, known⟩
  · rintro ⟨⟨d, stored, named⟩, known⟩
    have numeric := (reached.canonical _ d stored).numeric sup named
    obtain ⟨member, own⟩ := (mem_iff_of_perm reached same).2 stored
    exact ⟨d, member, own, sup, named, (owner_of_perm reached same numeric).2 ⟨rfl, known⟩⟩

theorem path_of_perm {sub sup : String} (known : registry.store.contains sup = true) :
    TransGen (ofDefinitions definitions).Edge sub sup ↔ TransGen registry.store.Names sub sup := by
  constructor
  · exact TransGen.mono (fun _ _ edge => ((edge_of_perm reached same).1 edge).1) _ _
  · intro chain
    induction chain using TransGen.head_induction_on with
    | single names => exact .single ((edge_of_perm reached same).2 ⟨names, known⟩)
    | head names rest path =>
      obtain ⟨_, onward, _⟩ := TransGen.head'_iff.1 rest
      exact .head ((edge_of_perm reached same).2 ⟨names, onward.contains⟩) path

/-- A graph of registered definitions has no loop. -/
theorem acyclic_of_perm : (ofDefinitions definitions).Acyclic := by
  intro oid loop
  have chain := TransGen.mono (fun _ _ edge => ((edge_of_perm reached same).1 edge).1) _ _ loop
  exact reached.sound.acyclic oid chain

/-- The graph has no place for what the registry has waiting. -/
theorem mem_unresolved_of_perm {oid superior : String} :
    (oid, superior) ∈ (ofDefinitions definitions).unresolved ↔
      registry.store.contains superior = false ∧ registry.store.Names oid superior := by
  rw [mem_unresolved]
  have free : ∀ {d : Definition}, registry.store.get? oid = some d → superior ∈ d.superiors →
      ((owners definitions)[nameKey superior]? = none ↔
        registry.store.contains superior = false) := by
    intro d stored named
    have numeric := (reached.canonical _ d stored).numeric superior named
    rw [Option.eq_none_iff_forall_ne_some, ← Bool.not_eq_true]
    simp [owner_of_perm reached same numeric]
  constructor
  · rintro ⟨d, member, own, named, unowned⟩
    have stored := (mem_iff_of_perm reached same).1 ⟨member, own⟩
    exact ⟨(free stored named).1 unowned, d, stored, named⟩
  · rintro ⟨absent, d, stored, named⟩
    obtain ⟨member, own⟩ := (mem_iff_of_perm reached same).2 stored
    exact ⟨d, member, own, named, (free stored named).2 absent⟩

end Registered

end Hierarchy

namespace Registry

/-- What the index keeps as waiting is what is missing. -/
theorem Sound.mem_pendingReferences {registry : Registry} (sound : registry.Sound)
    {oid superior : String} :
    (oid, superior) ∈ registry.pendingReferences ↔
      registry.store.contains superior = false ∧ registry.store.Names oid superior := by
  simp only [pendingReferences, List.mem_flatMap, List.mem_map, Prod.exists, Prod.mk.injEq]
  constructor
  · rintro ⟨_, waiting, pending, _, member, rfl, rfl⟩
    obtain ⟨_, absent, _, _, members⟩ := sound.mem_pendingSuperiors.1 pending
    exact ⟨absent, (members _).1 member⟩
  · rintro ⟨absent, names⟩
    have waits := sound.current.waiting.2 ⟨absent, names⟩
    refine ⟨superior, _, Links.mem_toList.2 ⟨⟨oid, waits⟩, rfl⟩, oid, ?_, rfl, rfl⟩
    exact Std.ExtTreeSet.mem_toList.2 waits

theorem nodup_pendingReferences (registry : Registry) : registry.pendingReferences.Nodup := by
  refine List.nodup_flatMap.2 ⟨?_, ?_⟩
  · rintro ⟨superior, waiting⟩ pending
    obtain ⟨_, rfl⟩ := Links.mem_toList.1 pending
    exact (TextSet.toList_nodup _).map fun first second same => congrArg Prod.fst same
  · refine (List.pairwise_map.1 (Links.toList_sorted _)).imp ?_
    rintro ⟨superior, waiting⟩ ⟨other, others⟩ less pair one two
    obtain ⟨_, _, rfl⟩ := List.mem_map.1 one
    obtain ⟨_, _, same⟩ := List.mem_map.1 two
    obtain ⟨_, rfl⟩ := Prod.mk.inj same
    exact String.lt_irrefl _ less

theorem Reached.mirrors_of_perm {registry : Registry} (reached : registry.Reached)
    {definitions : List Definition} (same : definitions.Perm registry.store.toList) :
    (Hierarchy.ofDefinitions definitions).Mirrors registry := by
  have sound := reached.sound
  have apart := Hierarchy.nodup_of_perm reached same
  have known : ∀ {name sup}, registry.lookup name = .ok sup →
      registry.store.contains sup.oid.text = true := fun leads =>
    Store.contains_eq_true_iff.2 ⟨_, (sound.target_of_lookup leads).2⟩
  refine ⟨?_, fun oid => ?_, fun subtype supertype sub sup below above => ?_,
    fun name sup leads => ?_, ?_, ?_, ?_⟩
  · exact Hierarchy.nodup_distinct definitions
  · simp only [Hierarchy.mem_nodes_ofDefinitions, Hierarchy.mem_iff_of_perm reached same,
      Store.contains_eq_true_iff]
  · obtain ⟨answer, asked, means⟩ := sound.isDescendantOf_spec below above
    refine ⟨answer, asked, ?_⟩
    rw [means, Hierarchy.path_of_perm reached same (known above), Inherits]
    exact and_iff_right (sound.target_of_lookup below).2
  · obtain ⟨answer, asked, means⟩ := sound.hasDescendants_spec leads
    refine ⟨answer, asked, ?_⟩
    rw [means, ne_eq, List.eq_nil_iff_forall_not_mem, not_forall]
    simp only [not_not, Hierarchy.mem_subtypesOf]
    constructor
    · rintro ⟨sub, _, chain⟩
      obtain ⟨last, _, edge⟩ :=
        TransGen.tail'_iff.1 ((Hierarchy.path_of_perm reached same (known leads)).2 chain)
      exact ⟨last, edge⟩
    · rintro ⟨oid, edge⟩
      obtain ⟨⟨sub, stored, named⟩, _⟩ := (Hierarchy.edge_of_perm reached same).1 edge
      have own := sound.coherent.keyed stored
      rw [← own] at stored
      exact ⟨sub, stored, .single ⟨sub, stored, named⟩⟩
  · have once : ∀ d ∈ definitions, d.superiors.Nodup := fun d member =>
      (reached.canonical _ d ((Hierarchy.mem_iff_of_perm reached same).1 ⟨member, rfl⟩)).distinct
    refine (List.perm_ext_iff_of_nodup (Hierarchy.nodup_unresolved apart once)
      registry.nodup_pendingReferences).2 ?_
    rintro ⟨oid, superior⟩
    rw [Hierarchy.mem_unresolved_of_perm reached same, sound.mem_pendingReferences]
  · exact (Hierarchy.cycles_eq_nil_iff Hierarchy.mem_nodes_of_mem_superiors).2
      (Hierarchy.acyclic_of_perm reached same)
  · exact ⟨_, Hierarchy.superiorsFirst_ofDefinitions.2
      ⟨Hierarchy.acyclic_of_perm reached same, rfl⟩⟩

/-- The graph of the registered definitions and the index agree, whatever calls have led to the registry
and in whatever order the definitions are listed. -/
theorem Reached.mirrors {registry : Registry} (reached : registry.Reached) :
    (Hierarchy.ofRegistry registry).Mirrors registry ∧
      ∀ definitions : List Definition, definitions.Perm registry.store.toList →
        (Hierarchy.ofDefinitions definitions).Mirrors registry :=
  ⟨reached.mirrors_of_perm (.refl _), fun _ => reached.mirrors_of_perm⟩

/-- The graph tells what waits for a superior, and what it says of the superior once that has come. -/
theorem Reached.mirrors_sample :
    Sample.waiting.pendingReferences = [("2.5.6.6", "2.5.6.0")] ∧
      Sample.full.isDescendantOf "person" "TOP" = .ok true ∧
      Sample.full.hasDescendants "Top" = .ok true := by
  obtain ⟨before, _⟩ := mirrors Sample.waiting_reached
  obtain ⟨_, orders⟩ := mirrors Sample.full_reached
  have after := orders [Sample.top, Sample.person] (by decide +kernel)
  have edge : (Hierarchy.ofDefinitions [Sample.top, Sample.person]).Edge "2.5.6.6" "2.5.6.0" :=
    ⟨["2.5.6.0"], by decide +kernel, by simp⟩
  refine ⟨?_, ?_, ?_⟩
  · have listed : (Hierarchy.ofRegistry Sample.waiting).unresolved = [("2.5.6.6", "2.5.6.0")] := by
      decide +kernel
    exact List.perm_singleton.1 (listed ▸ before.unresolved).symm
  · obtain ⟨answer, asked, means⟩ := after.inherits "person" "TOP" Sample.person Sample.top
      (by decide +kernel) (by decide +kernel)
    rw [asked, means.2 (.single edge)]
  · obtain ⟨answer, asked, means⟩ := after.inherited "Top" Sample.top (by decide +kernel)
    rw [asked, means.2 (List.ne_nil_of_mem (Hierarchy.mem_subtypesOf.2 edge))]

end Registry

end Subschema
