import Mathlib.Data.List.Induction
import Subschema.Proofs.Hierarchy

namespace Subschema

namespace Hierarchy

/-- A definition at a place in a list, with what comes before it. It is the first with its identifier. -/
def Foremost (definitions before : List Definition) (d : Definition) : Prop :=
  before ++ [d] <+: definitions ∧ ∀ e ∈ before, e.oid.text ≠ d.oid.text

/-- A key belongs to an identifier: that of the first definition with the key, of those that are the first
with their identifier. -/
def BelongsTo (definitions : List Definition) (key oid : String) : Prop :=
  ∃ before d, Foremost definitions before d ∧ d.oid.text = oid ∧ key ∈ d.keys ∧
    ∀ earlier e, Foremost before earlier e → key ∉ e.keys

section Concat

variable {definitions before : List Definition} {d e : Definition} {key oid : String}

theorem foldl_keep_seen : d.oid.text ∈ (definitions.foldl keep ([], ∅)).2 ↔
    ∃ e ∈ definitions, e.oid.text = d.oid.text := by
  refine Iff.trans ?_ exists_distinct_iff
  rw [(apart_foldl_keep definitions).seen, distinct_eq]
  simp only [List.mem_reverse]

theorem distinct_concat_of_known (known : ∃ e ∈ definitions, e.oid.text = d.oid.text) :
    distinct (definitions ++ [d]) = distinct definitions := by
  rw [distinct_eq, List.foldl_append, List.foldl_cons, List.foldl_nil, keep_eq, if_pos, distinct_eq]
  exact Std.ExtTreeSet.contains_iff_mem.2 (foldl_keep_seen.2 known)

theorem distinct_concat_of_fresh (fresh : ¬ ∃ e ∈ definitions, e.oid.text = d.oid.text) :
    distinct (definitions ++ [d]) = distinct definitions ++ [d] := by
  rw [distinct_eq, List.foldl_append, List.foldl_cons, List.foldl_nil, keep_eq, if_neg, distinct_eq]
  · exact List.reverse_cons
  · exact fun seen => fresh (foldl_keep_seen.1 (Std.ExtTreeSet.contains_iff_mem.1 seen))

/-- A definition at the end of a list is the first with its identifier only if none before it has
it. -/
theorem foremost_concat : Foremost (definitions ++ [d]) before e ↔
    Foremost definitions before e ∨
      before = definitions ∧ e = d ∧ ¬ ∃ c ∈ definitions, c.oid.text = d.oid.text := by
  unfold Foremost
  rw [List.prefix_concat_iff, or_comm, or_and_right]
  refine or_congr_right ⟨?_, ?_⟩
  · rintro ⟨whole, first⟩
    obtain ⟨rfl, last⟩ := List.append_inj' whole rfl
    obtain rfl := List.singleton_inj.1 last
    exact ⟨rfl, rfl, fun ⟨c, member, same⟩ => first c member same⟩
  · rintro ⟨rfl, rfl, fresh⟩
    exact ⟨rfl, fun c member same => fresh ⟨c, member, same⟩⟩

/-- The kept definitions are those that are the first with their identifier. -/
theorem mem_distinct : e ∈ distinct definitions ↔ ∃ before, Foremost definitions before e := by
  induction definitions using List.reverseRecOn with
  | nil => simp [Foremost, distinct_eq]
  | append_singleton definitions d ih =>
    simp only [foremost_concat, exists_or, exists_eq_left, ← ih]
    by_cases known : ∃ c ∈ definitions, c.oid.text = d.oid.text
    · rw [distinct_concat_of_known known]
      simp [known]
    · rw [distinct_concat_of_fresh known]
      simp [known]

theorem belongsTo_concat : BelongsTo (definitions ++ [d]) key oid ↔
    BelongsTo definitions key oid ∨ (¬ ∃ c ∈ definitions, c.oid.text = d.oid.text) ∧
      d.oid.text = oid ∧ key ∈ d.keys ∧ ∀ e ∈ distinct definitions, key ∉ e.keys := by
  constructor
  · rintro ⟨before, e, foremost, own, has, free⟩
    rcases foremost_concat.1 foremost with earlier | ⟨rfl, rfl, fresh⟩
    · exact Or.inl ⟨before, e, earlier, own, has, free⟩
    · refine Or.inr ⟨fresh, own, has, fun c kept => ?_⟩
      obtain ⟨earlier, foremost⟩ := mem_distinct.1 kept
      exact free earlier c foremost
  · rintro (⟨before, e, foremost, own, has, free⟩ | ⟨fresh, own, has, free⟩)
    · exact ⟨before, e, foremost_concat.2 (Or.inl foremost), own, has, free⟩
    · exact ⟨definitions, d, foremost_concat.2 (Or.inr ⟨rfl, rfl, fresh⟩), own, has,
        fun earlier c foremost => free c (mem_distinct.2 ⟨earlier, foremost⟩)⟩

end Concat

/-- By induction on the list from its end: a definition is asked last, and only if it is kept. -/
theorem belongsTo_iff {definitions : List Definition} {key oid : String} :
    BelongsTo definitions key oid ↔ (owners definitions)[key]? = some oid := by
  rw [getElem?_owners]
  induction definitions using List.reverseRecOn with
  | nil => simp [BelongsTo, Foremost, distinct_eq]
  | append_singleton definitions d ih =>
    rw [belongsTo_concat, ih]
    by_cases known : ∃ c ∈ definitions, c.oid.text = d.oid.text
    · rw [distinct_concat_of_known known]
      simp [known]
    · rw [distinct_concat_of_fresh known, List.find?_append]
      cases found : (distinct definitions).find? fun e => e.keys.contains key with
      | some e =>
        have has := List.find?_some found
        have taken : ¬ ∀ c ∈ distinct definitions, key ∉ c.keys :=
          fun free => free e (List.mem_of_find?_eq_some found) (by simpa using has)
        simp [taken]
      | none =>
        have free : ∀ c ∈ distinct definitions, key ∉ c.keys := by
          simpa using List.find?_eq_none.1 found
        by_cases has : key ∈ d.keys
        · simpa [known, has] using fun _ : d.oid.text = oid => free
        · simp [has]

/-- The edges lead to whom the keys of the superiors belong. -/
theorem edge_iff_belongsTo {definitions : List Definition} {sub sup : String} :
    (ofDefinitions definitions).Edge sub sup ↔
      ∃ d ∈ definitions, d.oid.text = sub ∧ ∃ superior ∈ d.superiors,
        BelongsTo definitions (nameKey superior) sup := by
  simp only [edge_ofDefinitions, belongsTo_iff]

/-- A key that belongs to nobody. -/
def Unclaimed (definitions : List Definition) (key : String) : Prop :=
  ∀ oid, ¬ BelongsTo definitions key oid

/-- A key belongs to nobody exactly if the graph has no owner of it. -/
theorem unclaimed_iff {definitions : List Definition} {key : String} :
    Unclaimed definitions key ↔ (owners definitions)[key]? = none := by
  rw [Unclaimed, Option.eq_none_iff_forall_ne_some]
  exact forall_congr' fun oid => not_congr belongsTo_iff

instance (definitions : List Definition) (key : String) : Decidable (Unclaimed definitions key) :=
  decidable_of_iff _ unclaimed_iff.symm

/-- The unresolved references are those whose key belongs to nobody, each as often as it is made. -/
theorem unresolved_eq (definitions : List Definition) : (ofDefinitions definitions).unresolved =
    definitions.flatMap fun d =>
      (d.superiors.filter fun superior => Unclaimed definitions (nameKey superior)).map
        fun superior => (d.oid.text, superior) := by
  unfold ofDefinitions references
  simp only [List.filterMap_flatMap, List.filterMap_map]
  refine congrArg (definitions.flatMap ·) (funext fun d => ?_)
  rw [← List.filterMap_eq_map, List.filterMap_filter]
  refine List.filterMap_congr fun superior _ => ?_
  have free := @unclaimed_iff definitions (nameKey superior)
  simp only [Function.comp_apply]
  cases owner : (owners definitions)[nameKey superior]? with
  | none => simp [free.2 owner]
  | some oid => simp [mt free.1, owner]

/-- A graph without parallel edges. -/
def Simple (superiors : Std.ExtTreeMap String (List String)) : Prop :=
  ∀ (oid : String) (targets : List String), superiors[oid]? = some targets → targets.Nodup

theorem Simple.addEdge {superiors : Std.ExtTreeMap String (List String)} (simple : Simple superiors)
    (oid target : String) : Simple (addEdge superiors oid target) := by
  intro other targets stored
  rw [Hierarchy.addEdge, Std.ExtTreeMap.getElem?_alter] at stored
  split at stored
  · obtain rfl := Option.some.inj stored
    have before : (superiors[oid]?.getD []).Nodup := by
      cases held : superiors[oid]? with
      | none => exact .nil
      | some targets => exact simple oid targets held
    split
    · exact before
    · rename_i fresh
      rw [← List.concat_eq_append]
      exact before.concat fun member => fresh (List.contains_iff_mem.2 member)
  · exact simple other targets stored

theorem Simple.addNode {superiors : Std.ExtTreeMap String (List String)} (simple : Simple superiors)
    (d : Definition) : Simple (addNode superiors d) := by
  intro other targets stored
  rw [Hierarchy.addNode, Std.ExtTreeMap.getElem?_insert] at stored
  split at stored
  · obtain rfl := Option.some.inj stored
    exact .nil
  · exact simple other targets stored

theorem Simple.addReference {superiors : Std.ExtTreeMap String (List String)}
    (simple : Simple superiors) (reference : Reference) : Simple (addReference superiors reference) := by
  unfold Hierarchy.addReference
  split
  · exact simple.addEdge _ _
  · exact simple

theorem simple_ofDefinitions (definitions : List Definition) :
    Simple (ofDefinitions definitions).superiors := by
  rw [superiors_ofDefinitions]
  refine List.foldlRecOn _ addReference ?_ fun _ simple reference _ => simple.addReference reference
  refine List.foldlRecOn _ addNode ?_ fun _ simple d _ => simple.addNode d
  simp [Simple]

theorem nodup_edgesOf (definitions : List Definition) (oid : String) :
    ((ofDefinitions definitions).edgesOf oid).Nodup := by
  rw [edgesOf, Std.ExtTreeMap.getD_eq_getD_getElem?]
  cases held : (ofDefinitions definitions).superiors[oid]? with
  | none => exact .nil
  | some targets => exact simple_ofDefinitions definitions oid targets held

section Neighbours

variable {hierarchy : Hierarchy}

theorem mem_superiorsOf {sub sup : String} : sup ∈ hierarchy.superiorsOf sub ↔ hierarchy.Edge sub sup := by
  rw [superiorsOf, mem_sorted, mem_edgesOf]

theorem pairwise_subtypesOf (hierarchy : Hierarchy) (oid : String) :
    (hierarchy.subtypesOf oid).Pairwise (· < ·) := by
  have ordered := Std.ExtTreeMap.ordered_keys_toList (t := hierarchy.superiors)
  refine List.pairwise_map.2 ((ordered.filter _).imp fun less => ?_)
  exact compareOfLessAndEq_eq_lt.1 less

theorem mem_roots {oid : String} :
    oid ∈ hierarchy.roots ↔ oid ∈ hierarchy.nodes ∧ hierarchy.superiorsOf oid = [] := by
  rw [roots, sortedNodes, List.mem_filter, mem_sorted, List.isEmpty_iff]
  simp only [List.eq_nil_iff_forall_not_mem, mem_superiorsOf, mem_edgesOf]

theorem mem_edges {sub sup : String} : (sub, sup) ∈ hierarchy.edges ↔ hierarchy.Edge sub sup := by
  simp only [edges, Leads, List.mem_flatMap, List.mem_map, mem_sorted, Prod.exists, Prod.mk.injEq,
    Std.ExtTreeMap.mem_toList_iff_getElem?_eq_some, id_eq]
  constructor
  · rintro ⟨_, targets, stored, _, member, rfl, rfl⟩
    exact ⟨targets, stored, member⟩
  · rintro ⟨targets, stored, member⟩
    exact ⟨sub, targets, stored, sup, member, rfl, rfl⟩

end Neighbours

theorem nodup_edges (definitions : List Definition) : (ofDefinitions definitions).edges.Nodup := by
  refine List.nodup_flatMap.2 ⟨fun ⟨oid, targets⟩ listed => ?_, ?_⟩
  · have stored := Std.ExtTreeMap.mem_toList_iff_getElem?_eq_some.1 listed
    have once := simple_ofDefinitions definitions oid targets stored
    exact ((List.mergeSort_perm _ _).nodup_iff.2 once).map fun _ _ same => congrArg Prod.snd same
  · have ordered := Std.ExtTreeMap.ordered_keys_toList (t := (ofDefinitions definitions).superiors)
    refine ordered.imp ?_
    rintro ⟨one, targets⟩ ⟨two, others⟩ less pair first second
    obtain ⟨_, _, rfl⟩ := List.mem_map.1 first
    obtain ⟨_, _, same⟩ := List.mem_map.1 second
    obtain ⟨rfl, _⟩ := Prod.mk.inj same
    simp at less

/-- The graph accounts for the references of some definitions. -/
structure Accounts (definitions : List Definition) (graph : Hierarchy) : Prop where
  /-- The nodes are the distinct identifiers. -/
  nodes : graph.nodes.Nodup ∧ ∀ oid, oid ∈ graph.nodes ↔ ∃ d ∈ definitions, d.oid.text = oid
  /-- A key belongs to one identifier at most. -/
  owner : ∀ key one two, BelongsTo definitions key one → BelongsTo definitions key two → one = two
  /-- A reference is an edge to whom its key belongs, whichever of the definitions with one identifier
  makes it. There are no parallel edges. -/
  edges : graph.edges.Nodup ∧ ∀ sub sup, (sub, sup) ∈ graph.edges ↔
    ∃ d ∈ definitions, d.oid.text = sub ∧ ∃ superior ∈ d.superiors,
      BelongsTo definitions (nameKey superior) sup
  /-- The other references are listed in their order, each as often as it is made. -/
  unresolved : graph.unresolved = definitions.flatMap fun d =>
    (d.superiors.filter fun superior => Unclaimed definitions (nameKey superior)).map
      fun superior => (d.oid.text, superior)
  superiors : ∀ oid, (graph.superiorsOf oid).Pairwise (· < ·) ∧
    ∀ sup, sup ∈ graph.superiorsOf oid ↔ (oid, sup) ∈ graph.edges
  subtypes : ∀ oid, (graph.subtypesOf oid).Pairwise (· < ·) ∧
    ∀ sub, sub ∈ graph.subtypesOf oid ↔ oid ∈ graph.superiorsOf sub
  roots : graph.roots.Pairwise (· < ·) ∧
    ∀ oid, oid ∈ graph.roots ↔ oid ∈ graph.nodes ∧ graph.superiorsOf oid = []

/-- The graph of any definitions accounts for all their references. -/
theorem ofDefinitions_accounts (definitions : List Definition) :
    Accounts definitions (ofDefinitions definitions) where
  nodes := ⟨nodup_distinct definitions, fun _ => mem_nodes_ofDefinitions⟩
  owner := fun _ _ _ first second =>
    Option.some.inj ((belongsTo_iff.1 first).symm.trans (belongsTo_iff.1 second))
  edges := ⟨nodup_edges definitions, fun _ _ => mem_edges.trans edge_iff_belongsTo⟩
  unresolved := unresolved_eq definitions
  superiors := fun oid => ⟨pairwise_sorted (nodup_edgesOf definitions oid),
    fun _ => mem_superiorsOf.trans mem_edges.symm⟩
  subtypes := fun oid => ⟨pairwise_subtypesOf _ oid,
    fun _ => mem_subtypesOf.trans mem_superiorsOf.symm⟩
  roots := ⟨(pairwise_sorted (nodup_distinct definitions)).filter _, fun _ => mem_roots⟩

end Hierarchy

namespace Sample

def homonyms : List Definition :=
  [{ oid := ⟨"2.6", by decide⟩, kind := .objectClass, names := ["a"] },
    { oid := ⟨"2.7", by decide⟩, kind := .objectClass, names := ["A"], superiors := ["a", " A ", "b"] },
    { oid := ⟨"2.6", by decide⟩, kind := .objectClass, names := ["b"], superiors := ["2.7", "b"] }]

end Sample

namespace Hierarchy

example : (ofDefinitions Sample.homonyms).edges = [("2.6", "2.7"), ("2.7", "2.6")] ∧
    (ofDefinitions Sample.homonyms).unresolved = [("2.7", "b"), ("2.6", "b")] := by
  decide +kernel

end Hierarchy

end Subschema
