import Subschema.Proofs.Components
import Subschema.Proofs.Hierarchy

namespace Subschema

open Relation

namespace Hierarchy

section Groups

variable {hierarchy : Hierarchy}

/-- A component with more members than one has a chain through all of them. -/
theorem transGen_of_isCyclic {component : List String} {leader : String} (apart : component.Nodup)
    (means : ∀ oid, oid ∈ component ↔ Entwined hierarchy.superiors id leader oid)
    (cyclic : hierarchy.isCyclic component = true) : TransGen hierarchy.Edge leader leader := by
  rw [isCyclic, Bool.or_eq_true, decide_eq_true_eq, Option.any_eq_true] at cyclic
  rcases cyclic with long | ⟨head, first, self⟩
  · exact transGen_of_long apart means long ((means leader).2 (.refl leader))
  · have entwined := (means head).1 (List.mem_of_mem_head? (Option.mem_def.2 first))
    have edge := mem_edgesOf.1 (List.contains_iff_mem.1 self)
    exact .trans_right entwined.there (.head' edge entwined.back)

theorem isCyclic_of_transGen {component : List String} {leader : String}
    (means : ∀ oid, oid ∈ component ↔ Entwined hierarchy.superiors id leader oid)
    (loop : TransGen hierarchy.Edge leader leader) : hierarchy.isCyclic component = true := by
  have own : leader ∈ component := (means leader).2 (.refl leader)
  rw [isCyclic, Bool.or_eq_true, decide_eq_true_eq]
  by_cases long : 1 < component.length
  · exact Or.inl long
  · have edge := (leads_self_or_long means loop).resolve_right long
    have some := List.length_pos_of_mem own
    obtain ⟨only, rfl⟩ := List.length_eq_one_iff.1 (by omega : component.length = 1)
    obtain rfl := List.mem_singleton.1 own
    exact Or.inr (List.contains_iff_mem.2 (mem_edgesOf.2 edge))

/-- The groups are the cyclic components, sorted. -/
theorem mem_cycles {group : List String} : group ∈ hierarchy.cycles ↔
    ∃ component ∈ components hierarchy.superiors id hierarchy.nodes,
      hierarchy.isCyclic component = true ∧ sorted component = group := by
  simp only [cycles, List.mem_mergeSort, List.mem_map, List.mem_filter, and_assoc]

variable (covers : ∀ oid ∈ hierarchy.superiors, oid ∈ hierarchy.nodes)

include covers

theorem parts_of_covers :
    Parts hierarchy.superiors id ∅ (components hierarchy.superiors id hierarchy.nodes) :=
  (graded_reversed covers).parts

/-- A definition on a loop is in a group, with all that it inherits from and that inherits from it.
-/
theorem exists_group {oid : String} (loop : TransGen hierarchy.Edge oid oid) :
    ∃ group ∈ hierarchy.cycles, ∀ other, other ∈ group ↔ Entwined hierarchy.superiors id oid other := by
  obtain ⟨_, edge, _⟩ := TransGen.head'_iff.1 loop
  obtain ⟨component, listed, members⟩ := (graded_reversed covers).exists_component edge.mem
  exact ⟨_, mem_cycles.2 ⟨component, listed, isCyclic_of_transGen members loop, rfl⟩,
    fun other => mem_sorted.trans (members other)⟩

theorem component_of_mem_cycles {group : List String} (listed : group ∈ hierarchy.cycles) :
    group.Pairwise (· < ·) ∧ ∃ leader, TransGen hierarchy.Edge leader leader ∧
      ∀ oid, oid ∈ group ↔ Entwined hierarchy.superiors id leader oid := by
  have parts := parts_of_covers covers
  obtain ⟨component, among, cyclic, rfl⟩ := mem_cycles.1 listed
  obtain ⟨leader, _, means⟩ := parts.component component among
  have apart := (List.nodup_flatten.1 parts.nodup).1 component among
  exact ⟨pairwise_sorted apart, leader, transGen_of_isCyclic apart means cyclic,
    fun oid => mem_sorted.trans (means oid)⟩

/-- Two definitions are in a group together if each inherits from the other. -/
theorem exists_group_iff {one two : String} :
    (∃ group ∈ hierarchy.cycles, one ∈ group ∧ two ∈ group) ↔
      TransGen hierarchy.Edge one two ∧ TransGen hierarchy.Edge two one := by
  constructor
  · rintro ⟨group, listed, first, second⟩
    obtain ⟨_, leader, loop, means⟩ := component_of_mem_cycles covers listed
    have onward : ∀ {a b : String}, a ∈ group → b ∈ group → TransGen hierarchy.Edge a b :=
      fun {a b} here there =>
        .trans_right ((means a).1 here).back (loop.trans_left ((means b).1 there).there)
    exact ⟨onward first second, onward second first⟩
  · rintro ⟨there, back⟩
    obtain ⟨group, listed, means⟩ := exists_group covers (there.trans back)
    exact ⟨group, listed, (means one).2 (.refl one),
      (means two).2 ⟨there.to_reflTransGen, back.to_reflTransGen⟩⟩

/-- There are no groups exactly if there are no loops. -/
theorem cycles_eq_nil_iff : hierarchy.cycles = [] ↔ hierarchy.Acyclic := by
  rw [List.eq_nil_iff_forall_not_mem]
  constructor
  · intro none oid loop
    obtain ⟨group, listed, _⟩ := exists_group covers loop
    exact none group listed
  · intro acyclic group listed
    obtain ⟨_, oid, loop, _⟩ := component_of_mem_cycles covers listed
    exact acyclic oid loop

theorem ne_nil_of_mem_cycles {group : List String} (listed : group ∈ hierarchy.cycles) :
    group ≠ [] := by
  obtain ⟨_, leader, _, means⟩ := component_of_mem_cycles covers listed
  exact List.ne_nil_of_mem ((means leader).2 (.refl leader))

/-- No definition is in two groups, or in one group twice. -/
theorem nodup_flatten_cycles : hierarchy.cycles.flatten.Nodup := by
  have apart := (List.nodup_flatten.1 (parts_of_covers covers).nodup).2
  refine List.nodup_flatten.2 ⟨fun group listed => ?_, ?_⟩
  · exact (component_of_mem_cycles covers listed).1.imp String.ne_of_lt
  · rw [cycles, (List.mergeSort_perm _ _).pairwise_iff List.disjoint_symm, List.pairwise_map]
    refine (apart.filter _).imp fun {one two} disjoint oid first second => ?_
    exact disjoint (mem_sorted.1 first) (mem_sorted.1 second)

theorem ordered_cycles : hierarchy.cycles.Pairwise fun one two => compare one two = .lt := by
  have groups : hierarchy.cycles.Nodup := by
    refine (List.nodup_flatten.1 (nodup_flatten_cycles covers)).2.imp_of_mem ?_
    rintro one _ listed _ disjoint rfl
    obtain ⟨oid, member⟩ := List.exists_mem_of_ne_nil _ (ne_nil_of_mem_cycles covers listed)
    exact disjoint member member
  exact pairwise_lt_mergeSort ((List.mergeSort_perm _ _).nodup_iff.1 groups)

end Groups

end Hierarchy

namespace Sample

def link (oid : Oid) (superior : String) : Definition :=
  { oid, kind := .objectClass, superiors := [superior] }

def tangle : List Definition :=
  [link ⟨"2.4", by decide⟩ "2.1", link ⟨"2.2", by decide⟩ "2.1", link ⟨"2.1", by decide⟩ "2.2",
    link ⟨"2.3", by decide⟩ "2.3"]

end Sample

namespace Hierarchy

/-- The cycles of the graph of any definitions are its cyclic components, each once: an identifier is in a
group exactly if a chain of superiors leads from it back to itself, and two are in the same group exactly
if each leads to the other. Groups share no members, and they are in order, as their members are. -/
theorem cycles_exact (definitions : List Definition) :
    (∀ oid, (∃ group ∈ (ofDefinitions definitions).cycles, oid ∈ group) ↔
      TransGen (ofDefinitions definitions).Edge oid oid) ∧
    (∀ one two, one ≠ two →
      ((∃ group ∈ (ofDefinitions definitions).cycles, one ∈ group ∧ two ∈ group) ↔
        TransGen (ofDefinitions definitions).Edge one two ∧
          TransGen (ofDefinitions definitions).Edge two one)) ∧
    (ofDefinitions definitions).cycles.flatten.Nodup ∧
    (∀ group ∈ (ofDefinitions definitions).cycles, group ≠ [] ∧ group.Pairwise (· < ·)) ∧
    (ofDefinitions definitions).cycles.Pairwise fun one two => compare one two = .lt := by
  have covers := @mem_nodes_of_mem_superiors definitions
  refine ⟨fun oid => ?_, fun one two _ => exists_group_iff covers, nodup_flatten_cycles covers,
    fun group listed => ?_, ordered_cycles covers⟩
  · simpa using @exists_group_iff _ covers oid oid
  · exact ⟨ne_nil_of_mem_cycles covers listed, (component_of_mem_cycles covers listed).1⟩

/-- Four definitions: two that name each other, one that names itself, and one that inherits from
the first two without being in their group. -/
theorem cycles_exact_tangle :
    (∃ group ∈ (ofDefinitions Sample.tangle).cycles, "2.1" ∈ group ∧ "2.2" ∈ group) ∧
      (∃ group ∈ (ofDefinitions Sample.tangle).cycles, "2.3" ∈ group) ∧
      ¬ ∃ group ∈ (ofDefinitions Sample.tangle).cycles, "2.4" ∈ group := by
  obtain ⟨loops, shared, _⟩ := cycles_exact Sample.tangle
  have there : (ofDefinitions Sample.tangle).Edge "2.1" "2.2" := ⟨["2.2"], by decide +kernel, by simp⟩
  have back : (ofDefinitions Sample.tangle).Edge "2.2" "2.1" := ⟨["2.1"], by decide +kernel, by simp⟩
  have self : (ofDefinitions Sample.tangle).Edge "2.3" "2.3" := ⟨["2.3"], by decide +kernel, by simp⟩
  have unnamed : ∀ d ∈ Sample.tangle, ∀ superior ∈ d.superiors,
      (owners Sample.tangle)[nameKey superior]? ≠ some "2.4" := by
    decide +kernel
  refine ⟨(shared "2.1" "2.2" (by decide)).2 ⟨.single there, .single back⟩,
    (loops "2.3").2 (.single self), fun group => ?_⟩
  obtain ⟨_, _, edge⟩ := TransGen.tail'_iff.1 ((loops "2.4").1 group)
  obtain ⟨d, member, _, superior, named, owner⟩ := edge_ofDefinitions.1 edge
  exact unnamed d member superior named owner

end Hierarchy

end Subschema
