import Subschema.Proofs.Acyclic
import Subschema.Proofs.Resolution

namespace Subschema

open Relation

section Order

variable {α : Type} {graph : Std.ExtTreeMap String α} {next : α → List String} {nodes order : List String}

/-- What the two passes over the order can find. -/
theorem topologicalOrder_cases (graph : Std.ExtTreeMap String α) (next : α → List String)
    (nodes : List String) :
    (∃ node, topologicalOrder graph next nodes = .error node ∧ Leads graph next node node) ∨
    (∃ component ∈ collect (reversed graph next) id ∅ (bottomUp graph next nodes).reverse,
      topologicalOrder graph next nodes = .error (component.headD "") ∧ 1 < component.length) ∨
    topologicalOrder graph next nodes = .ok (bottomUp graph next nodes).reverse ∧
      (∀ node ∈ (bottomUp graph next nodes).reverse, ¬ Leads graph next node node) ∧
      ∀ component ∈ collect (reversed graph next) id ∅ (bottomUp graph next nodes).reverse,
        component.length ≤ 1 := by
  simp only [topologicalOrder]
  split
  · rename_i node found
    have self := List.find?_some found
    exact Or.inl ⟨node, rfl, mem_elim_iff.1 (List.contains_iff_mem.1 self)⟩
  · rename_i none
    split
    · rename_i component found
      have long := List.find?_some found
      exact Or.inr (Or.inl ⟨component, List.mem_of_find?_eq_some found, rfl, of_decide_eq_true long⟩)
    · rename_i alone
      refine Or.inr (Or.inr ⟨rfl, fun node listed self => ?_, fun component among => ?_⟩)
      · exact List.find?_eq_none.1 none node listed (List.contains_iff_mem.2 (mem_elim_iff.2 self))
      · simpa using List.find?_eq_none.1 alone component among

variable (inside : ∀ node place, Leads graph next node place → place ∈ graph)

include inside

/-- Chains lead the other way in the graph with its edges turned around. -/
theorem chain_turned {node place : String} :
    TransGen (Leads (reversed graph next) id) place node ↔ TransGen (Leads graph next) node place := by
  rw [← transGen_swap]
  constructor
  · exact TransGen.mono (fun _ _ edge => (leads_reversed.1 edge).2) _ _
  · exact TransGen.mono (fun _ _ edge => leads_reversed.2 ⟨inside _ _ edge, edge⟩) _ _

variable (covers : ∀ node ∈ graph, node ∈ nodes)

include covers

/-- A node that is reported lies on a loop. -/
theorem transGen_of_topologicalOrder {node : String}
    (fails : topologicalOrder graph next nodes = .error node) : TransGen (Leads graph next) node node := by
  rcases topologicalOrder_cases graph next nodes with
    ⟨other, found, self⟩ | ⟨component, among, found, long⟩ | ⟨sorted, _⟩
  · obtain rfl := Except.error.inj (found.symm.trans fails)
    exact .single self
  · have parts := (graded_forward inside covers).parts
    have apart := (List.nodup_flatten.1 parts.nodup).1 component among
    obtain ⟨leader, _, means⟩ := parts.component component among
    obtain ⟨head, rest, rfl⟩ := List.exists_cons_of_length_pos (Nat.zero_lt_of_lt long)
    obtain rfl := Except.error.inj (found.symm.trans fails)
    exact (chain_turned inside).1 (transGen_of_long apart means long List.mem_cons_self)
  · simp [sorted] at fails

theorem acyclic_of_topologicalOrder (sorted : topologicalOrder graph next nodes = .ok order)
    (node : String) : ¬ TransGen (Leads graph next) node node := by
  intro loop
  have graded := graded_forward inside covers
  obtain ⟨_, first, _⟩ := TransGen.head'_iff.1 loop
  have stored : node ∈ reversed graph next := mem_reversed.2 first.mem
  rcases topologicalOrder_cases graph next nodes with ⟨_, fails, _⟩ | ⟨_, _, fails, _⟩ | ⟨_, self, alone⟩
  · simp [fails] at sorted
  · simp [fails] at sorted
  · obtain ⟨component, among, means⟩ := graded.exists_component stored
    rcases leads_self_or_long means ((chain_turned inside).2 loop) with edge | long
    · exact self node ((graded.covers node).2 stored) (leads_reversed.1 edge).2
    · exact absurd (alone component among) (Nat.not_le.2 long)

/-- Without loops, the order is the one in which a search leaves the nodes, turned around. -/
theorem topologicalOrder_of_acyclic (acyclic : ∀ node, ¬ TransGen (Leads graph next) node node) :
    topologicalOrder graph next nodes = .ok (bottomUp graph next nodes).reverse := by
  rcases topologicalOrder_cases graph next nodes with ⟨_, fails, _⟩ | ⟨_, _, fails, _⟩ | ⟨sorted, _⟩
  · exact absurd (transGen_of_topologicalOrder inside covers fails) (acyclic _)
  · exact absurd (transGen_of_topologicalOrder inside covers fails) (acyclic _)
  · exact sorted

end Order

namespace Hierarchy

section Definitions

variable {definitions : List Definition}

theorem mem_of_edge (sub sup : String) (edge : (ofDefinitions definitions).Edge sub sup) :
    sup ∈ (ofDefinitions definitions).superiors := by
  obtain ⟨_, _, _, _, _, before, d, ⟨first, _⟩, own, _⟩ := edge_iff_belongsTo.1 edge
  exact mem_superiors_ofDefinitions.2 ⟨d, first.subset (by simp), own⟩

theorem exists_topologicalOrder_iff :
    (∃ order, topologicalOrder (ofDefinitions definitions).superiors id
      (ofDefinitions definitions).nodes = .ok order) ↔ (ofDefinitions definitions).Acyclic := by
  constructor
  · rintro ⟨order, sorted⟩
    exact acyclic_of_topologicalOrder mem_of_edge mem_nodes_of_mem_superiors sorted
  · intro acyclic
    exact ⟨_, topologicalOrder_of_acyclic mem_of_edge mem_nodes_of_mem_superiors acyclic⟩

theorem superiorsFirst_of_acyclic (acyclic : (ofDefinitions definitions).Acyclic) :
    (ofDefinitions definitions).superiorsFirst =
      .ok (bottomUp (ofDefinitions definitions).superiors id (ofDefinitions definitions).nodes) := by
  have passes := ensureAcyclic_of_acyclic mem_nodes_of_mem_superiors acyclic
  have sorted := topologicalOrder_of_acyclic mem_of_edge mem_nodes_of_mem_superiors acyclic
  simp only [superiorsFirst, passes, sorted, List.reverse_reverse]
  rfl

theorem superiorsFirst_of_error {error : Error}
    (fails : (ofDefinitions definitions).ensureAcyclic = .error error) :
    (ofDefinitions definitions).superiorsFirst = .error error := by
  rw [superiorsFirst, fails]
  rfl

theorem superiorsFirst_ofDefinitions {order : List String} :
    (ofDefinitions definitions).superiorsFirst = .ok order ↔
      (ofDefinitions definitions).Acyclic ∧
      bottomUp (ofDefinitions definitions).superiors id (ofDefinitions definitions).nodes = order := by
  by_cases acyclic : (ofDefinitions definitions).Acyclic
  · rw [superiorsFirst_of_acyclic acyclic, Except.ok.injEq]
    exact (and_iff_right acyclic).symm
  · obtain ⟨oid, path, fails, _⟩ := exists_report mem_nodes_of_mem_superiors acyclic
    rw [superiorsFirst_of_error fails]
    exact iff_of_false nofun fun both => acyclic both.1

end Definitions

/-- The identifiers of some definitions, each once and after all that it inherits from. -/
structure SuperiorsFirst (definitions : List Definition) (order : List String) : Prop where
  nodup : order.Nodup
  mem_iff : ∀ oid, oid ∈ order ↔ ∃ d ∈ definitions, d.oid.text = oid
  /-- A superior of any of the definitions, where it stands for anything, comes before the definition. -/
  resolved : ∀ (before rest : List String) (d : Definition) (superior sup : String),
    order = before ++ d.oid.text :: rest → d ∈ definitions → superior ∈ d.superiors →
      BelongsTo definitions (nameKey superior) sup → sup ∈ before
  inherited : ∀ (before rest : List String) (oid sup : String), order = before ++ oid :: rest →
    TransGen (ofDefinitions definitions).Edge oid sup → sup ∈ before

/-- Bottom up, each definition comes after all that it inherits from. -/
theorem superiorsFirst_bottomUp {definitions : List Definition}
    (acyclic : (ofDefinitions definitions).Acyclic) :
    SuperiorsFirst definitions
      (bottomUp (ofDefinitions definitions).superiors id (ofDefinitions definitions).nodes) := by
  have direct : ∀ {before rest : List String} {oid sup : String},
      bottomUp (ofDefinitions definitions).superiors id (ofDefinitions definitions).nodes =
        before ++ oid :: rest → (ofDefinitions definitions).Edge oid sup → sup ∈ before :=
    fun split edge => bottomUp_sorted acyclic split edge (mem_of_edge _ _ edge)
  refine ⟨bottomUp_nodup _, fun oid => ?_, ?_, ?_⟩
  · rw [mem_bottomUp mem_nodes_of_mem_superiors, mem_superiors_ofDefinitions]
  · intro before rest d superior sup split member named belongs
    exact direct split (edge_iff_belongsTo.2 ⟨d, member, rfl, superior, named, belongs⟩)
  · intro before rest oid sup split chain
    -- By induction on the chain: what comes before `oid` has its own superiors before it.
    induction chain with
    | single edge => exact direct split edge
    | @tail middle sup _ edge ih =>
      obtain ⟨front, back, rfl⟩ := List.append_of_mem ih
      have earlier : sup ∈ front := direct (split.trans (List.append_assoc _ _ _)) edge
      exact List.mem_append_left _ earlier

end Hierarchy

namespace Sample

def diamond : List Definition :=
  [{ oid := ⟨"1.6", by decide⟩, kind := .objectClass, superiors := ["1.4", "1.5", "absent"] },
    link ⟨"1.5", by decide⟩ "TOP", link ⟨"1.4", by decide⟩ "1.3",
    { oid := ⟨"1.3", by decide⟩, kind := .objectClass, names := ["top"] },
    { oid := ⟨"1.3", by decide⟩, kind := .objectClass }]

end Sample

namespace Hierarchy

/-- The definitions can be put in order, superiors first, exactly if the graph has no loop. The order has
each identifier once, after all that it inherits from. What passes the check for loops is put in order, so
an error is one of the check. -/
theorem superiorsFirst_exact (definitions : List Definition) :
    ((∃ order, (ofDefinitions definitions).superiorsFirst = .ok order) ↔
      (ofDefinitions definitions).Acyclic) ∧
    (∀ order, (ofDefinitions definitions).superiorsFirst = .ok order →
      SuperiorsFirst definitions order) ∧
    ((ofDefinitions definitions).ensureAcyclic = .ok () ↔
      ∃ order, topologicalOrder (ofDefinitions definitions).superiors id
        (ofDefinitions definitions).nodes = .ok order) ∧
    ∀ error, (ofDefinitions definitions).superiorsFirst = .error error →
      (ofDefinitions definitions).ensureAcyclic = .error error := by
  have covers := @mem_nodes_of_mem_superiors definitions
  rw [exists_topologicalOrder_iff]
  by_cases acyclic : (ofDefinitions definitions).Acyclic
  · have passes := ensureAcyclic_of_acyclic covers acyclic
    have sorted := superiorsFirst_of_acyclic acyclic
    refine ⟨iff_of_true ⟨_, sorted⟩ acyclic, fun order same => ?_, iff_of_true passes acyclic,
      fun error fails => by simp [sorted] at fails⟩
    rw [← Except.ok.inj (sorted.symm.trans same)]
    exact superiorsFirst_bottomUp acyclic
  · obtain ⟨oid, path, refused, _⟩ := exists_report covers acyclic
    have fails := superiorsFirst_of_error refused
    refine ⟨iff_of_false (by simp [fails]) acyclic, fun order sorted => by simp [fails] at sorted,
      iff_of_false (by simp [refused]) acyclic, fun error same => ?_⟩
    rw [refused, Except.error.inj (fails.symm.trans same)]

/-- Two ways up to one definition, which the list has twice. One superior is given by name, and one
stands for nothing. -/
theorem superiorsFirst_exact_diamond :
    ∃ before rest, (ofDefinitions Sample.diamond).superiorsFirst = .ok (before ++ "1.6" :: rest) ∧
      (before ++ "1.6" :: rest).length = 4 ∧ "1.3" ∈ before := by
  obtain ⟨succeeds, order, _⟩ := superiorsFirst_exact Sample.diamond
  -- Every superior is less than the definition that names it.
  have down : ∀ d ∈ Sample.diamond, ∀ superior ∈ d.superiors,
      ∀ sup ∈ (owners Sample.diamond)[nameKey superior]?, sup < d.oid.text := by
    decide +kernel
  have less : ∀ oid sup, TransGen (ofDefinitions Sample.diamond).Edge oid sup → sup < oid := by
    intro oid sup chain
    induction chain with
    | single edge =>
      obtain ⟨d, member, rfl, superior, named, owner⟩ := edge_ofDefinitions.1 edge
      exact down d member superior named _ owner
    | tail _ edge ih =>
      obtain ⟨d, member, rfl, superior, named, owner⟩ := edge_ofDefinitions.1 edge
      exact String.lt_trans (down d member superior named _ owner) ih
  obtain ⟨whole, sorted⟩ := succeeds.2 fun oid loop => String.lt_irrefl oid (less oid oid loop)
  obtain ⟨nodup, mem_iff, _, inherited⟩ := order whole sorted
  obtain ⟨before, rest, rfl⟩ :=
    List.append_of_mem ((mem_iff "1.6").2 ⟨_, List.mem_cons_self, rfl⟩)
  have there : (ofDefinitions Sample.diamond).Edge "1.6" "1.4" :=
    ⟨["1.4", "1.5"], by decide +kernel, by simp⟩
  have further : (ofDefinitions Sample.diamond).Edge "1.4" "1.3" := ⟨["1.3"], by decide +kernel, by simp⟩
  refine ⟨before, rest, sorted, ?_, inherited _ _ _ _ rfl (.tail (.single there) further)⟩
  have same : (before ++ "1.6" :: rest).Perm ["1.6", "1.5", "1.4", "1.3"] := by
    refine (List.perm_ext_iff_of_nodup nodup (by decide)).2 fun oid => ?_
    rw [mem_iff]
    simp [Sample.diamond, Sample.link, eq_comm]
  exact same.length_eq

end Hierarchy

end Subschema
