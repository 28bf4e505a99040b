import Subschema.Proofs.Cycles
import Subschema.Proofs.Loops

namespace Subschema

open Relation

namespace Hierarchy

section Report

variable {hierarchy : Hierarchy} (covers : ∀ oid ∈ hierarchy.superiors, oid ∈ hierarchy.nodes)

include covers

/-- A loop lies in one group, so that it is no restriction to search the group of a definition for
one. -/
theorem mem_group_of_loop {group path : List String} {oid place : String} (listed : group ∈ hierarchy.cycles)
    (own : oid ∈ group) (loop : Loop hierarchy.Edge oid path) (member : place ∈ path) : place ∈ group := by
  obtain ⟨_, leader, _, means⟩ := component_of_mem_cycles covers listed
  obtain ⟨there, back⟩ := loop.chains member
  exact (means place).2 (((means oid).1 own).trans ⟨there, back⟩)

/-- The first member of the first group is less than any other member of a group: of its own, which is in
order, and of the later ones, which come after it by their first members. -/
theorem le_of_mem_group {oid other : String} {group members : List String} {later : List (List String)}
    (first : hierarchy.cycles = (oid :: members) :: later) (listed : group ∈ hierarchy.cycles)
    (member : other ∈ group) : oid ≤ other := by
  have least : ∀ {head : String} {rest : List String}, head :: rest ∈ hierarchy.cycles →
      other ∈ head :: rest → head ≤ other := by
    intro head rest among inside
    have sorted := (component_of_mem_cycles covers among).1
    rcases List.mem_cons.1 inside with rfl | after
    · exact String.le_refl _
    · exact Std.le_of_lt ((List.pairwise_cons.1 sorted).1 other after)
  obtain ⟨head, rest, rfl⟩ := List.exists_cons_of_ne_nil (ne_nil_of_mem_cycles covers listed)
  refine String.le_trans ?_ (least listed member)
  rw [first] at listed
  rcases List.mem_cons.1 listed with same | after
  · obtain ⟨rfl, _⟩ := List.cons.inj same
    exact String.le_refl _
  · have ordered := ordered_cycles covers
    rw [first] at ordered
    have less := (List.pairwise_cons.1 ordered).1 _ after
    rw [List.compare_cons_cons, Ordering.then_eq_lt] at less
    rcases less with less | ⟨same, _⟩
    · exact Std.le_of_lt (compareOfLessAndEq_eq_lt.1 less)
    · obtain rfl := Std.LawfulEqCmp.eq_of_compare same
      exact String.le_refl _

theorem ensureAcyclic_of_acyclic (acyclic : hierarchy.Acyclic) : hierarchy.ensureAcyclic = .ok () := by
  rw [ensureAcyclic, (cycles_eq_nil_iff covers).2 acyclic]

/-- What a refusal reports: the least definition on a loop, and a shortest loop from there. -/
structure Reports (hierarchy : Hierarchy) (oid : String) (path : List String) : Prop where
  cyclic : TransGen hierarchy.Edge oid oid
  least : ∀ other, TransGen hierarchy.Edge other other → oid ≤ other
  path : ShortestLoop hierarchy.Edge oid path

/-- A graph with a loop is refused with the least definition on one and a shortest way back to it.
-/
theorem exists_report (cyclic : ¬ hierarchy.Acyclic) :
    ∃ oid path, hierarchy.ensureAcyclic = .error (.cyclicHierarchy oid path) ∧
      hierarchy.Reports oid path := by
  rw [← cycles_eq_nil_iff covers] at cyclic
  obtain ⟨group, later, first⟩ := List.exists_cons_of_ne_nil cyclic
  have listed : group ∈ hierarchy.cycles := first ▸ List.mem_cons_self
  obtain ⟨oid, members, rfl⟩ := List.exists_cons_of_ne_nil (ne_nil_of_mem_cycles covers listed)
  have own : oid ∈ oid :: members := List.mem_cons_self
  have chain := ((exists_group_iff covers).1 ⟨_, listed, own, own⟩).1
  refine ⟨oid, hierarchy.loopThrough oid (oid :: members), ?_, chain, fun other around => ?_, ?_⟩
  · rw [ensureAcyclic, first]
    rfl
  · obtain ⟨group, among, member, _⟩ := (exists_group_iff covers).2 ⟨around, around⟩
    exact le_of_mem_group covers first among member
  · refine loopWithin_shortest (fun path loop place member => ?_) chain
    rw [Std.ExtTreeSet.mem_ofList, List.contains_iff_mem]
    exact mem_group_of_loop covers listed own loop member

end Report

end Hierarchy

namespace Sample

def detour : List Definition :=
  [link ⟨"0.5", by decide⟩ "0.5", link ⟨"0.4", by decide⟩ "0.1", link ⟨"0.3", by decide⟩ "0.1",
    link ⟨"0.2", by decide⟩ "0.4",
    { oid := ⟨"0.1", by decide⟩, kind := .objectClass, superiors := ["0.2", "0.3"] }]

end Sample

namespace Hierarchy

/-- A graph of definitions passes exactly if it has no loop. If it does not pass, the least identifier
that lies on a loop is reported, with a loop along superiors from there than which the graph has no
shorter one. -/
theorem ensureAcyclic_exact (definitions : List Definition) :
    ((ofDefinitions definitions).ensureAcyclic = .ok () ↔ (ofDefinitions definitions).Acyclic) ∧
    ∀ error, (ofDefinitions definitions).ensureAcyclic = .error error →
      ∃ oid path, error = .cyclicHierarchy oid path ∧ (ofDefinitions definitions).Reports oid path := by
  have covers := @mem_nodes_of_mem_superiors definitions
  by_cases acyclic : (ofDefinitions definitions).Acyclic
  · have passes := ensureAcyclic_of_acyclic covers acyclic
    exact ⟨iff_of_true passes acyclic, fun error fails => by simp [passes] at fails⟩
  · obtain ⟨oid, path, fails, reports⟩ := exists_report covers acyclic
    refine ⟨iff_of_false (by simp [fails]) acyclic, fun error again => ⟨oid, path, ?_, reports⟩⟩
    exact (Except.error.inj (fails.symm.trans again)).symm

/-- Of the two ways back to the definition the shorter one is reported. There is another loop
elsewhere. -/
theorem ensureAcyclic_exact_detour :
    ∃ path, (ofDefinitions Sample.detour).ensureAcyclic = .error (.cyclicHierarchy "0.1" path) ∧
      path.length ≤ 2 := by
  obtain ⟨passes, fails⟩ := ensureAcyclic_exact Sample.detour
  have there : (ofDefinitions Sample.detour).Edge "0.1" "0.3" :=
    ⟨["0.2", "0.3"], by decide +kernel, by simp⟩
  have back : (ofDefinitions Sample.detour).Edge "0.3" "0.1" := ⟨["0.1"], by decide +kernel, by simp⟩
  have loop : Loop (ofDefinitions Sample.detour).Edge "0.1" ["0.3", "0.1"] :=
    ⟨.cons_cons there (.cons_cons back (.singleton _)), rfl⟩
  have chain := TransGen.head there (.single back)
  cases refused : (ofDefinitions Sample.detour).ensureAcyclic with
  | ok _ => exact absurd chain (passes.1 refused "0.1")
  | error error =>
    obtain ⟨oid, path, rfl, reports⟩ := fails error refused
    obtain ⟨_, edge, _⟩ := TransGen.head'_iff.1 reports.cyclic
    obtain ⟨d, listed, rfl⟩ := mem_superiors_ofDefinitions.1 edge.mem
    have above : ∀ d ∈ Sample.detour, "0.1" ≤ d.oid.text := by decide +kernel
    have same : d.oid.text = "0.1" :=
      String.le_antisymm (reports.least "0.1" chain) (above d listed)
    rw [same] at reports ⊢
    exact ⟨path, rfl, reports.path.least _ loop⟩

end Hierarchy

end Subschema
