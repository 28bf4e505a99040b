import Mathlib.Data.List.Nodup
import Subschema.Hierarchy
import Subschema.Proofs.Coherent
import Subschema.Proofs.Links

namespace Subschema

open Relation

/-- What is sorted comes in strict order if nothing is in it twice. -/
theorem pairwise_lt_mergeSort {β : Type} [Ord β] [Std.TransOrd β] [Std.LawfulEqOrd β] {items : List β}
    (apart : items.Nodup) :
    (items.mergeSort fun a b => (compare a b).isLE).Pairwise fun a b => compare a b = .lt := by
  have total : ∀ a b : β, ((compare a b).isLE || (compare b a).isLE) = true := by
    intro a b
    rw [@Std.OrientedOrd.eq_swap _ _ _ b a]
    cases compare a b <;> rfl
  have ordered := List.pairwise_mergeSort (fun _ _ _ => Std.TransCmp.isLE_trans) total items
  have distinct := (List.mergeSort_perm items fun a b => (compare a b).isLE).nodup_iff.2 apart
  refine ordered.imp₂ (fun a b le differ => ?_) distinct
  exact (Ordering.isLE_iff_eq_lt_or_eq_eq.1 le).resolve_right fun same =>
    differ (Std.LawfulEqCmp.eq_of_compare same)

namespace Hierarchy

theorem mem_sorted {texts : List String} {text : String} : text ∈ sorted texts ↔ text ∈ texts :=
  List.mem_mergeSort

theorem pairwise_sorted {texts : List String} (apart : texts.Nodup) :
    (sorted texts).Pairwise (· < ·) :=
  (pairwise_lt_mergeSort apart).imp fun less => compareOfLessAndEq_eq_lt.1 less

/-- An edge from a definition to one of its superiors. -/
abbrev Edge (hierarchy : Hierarchy) : String → String → Prop :=
  Leads hierarchy.superiors id

/-- The graph has no loop. -/
def Acyclic (hierarchy : Hierarchy) : Prop :=
  ∀ oid, ¬ TransGen hierarchy.Edge oid oid

theorem mem_edgesOf {hierarchy : Hierarchy} {sub sup : String} :
    sup ∈ hierarchy.edgesOf sub ↔ hierarchy.Edge sub sup := by
  unfold edgesOf Edge Leads
  rw [Std.ExtTreeMap.getD_eq_getD_getElem?]
  cases hierarchy.superiors[sub]? with
  | none => simp
  | some targets => simp

theorem mem_subtypesOf {hierarchy : Hierarchy} {sub sup : String} :
    sub ∈ hierarchy.subtypesOf sup ↔ hierarchy.Edge sub sup := by
  simp only [subtypesOf, Leads, List.mem_map, List.mem_filter, List.contains_eq_mem,
    decide_eq_true_eq, Prod.exists, Std.ExtTreeMap.mem_toList_iff_getElem?_eq_some, id_eq]
  constructor
  · rintro ⟨_, targets, ⟨stored, member⟩, rfl⟩
    exact ⟨targets, stored, member⟩
  · rintro ⟨targets, stored, member⟩
    exact ⟨sub, targets, ⟨stored, member⟩, rfl⟩

/-- The definitions kept so far, latest first, and their identifiers. -/
abbrev Kept := List Definition × TextSet

/-- Keeps a definition unless its identifier occurred. -/
def keep : Kept → Definition → Kept := fun (kept, seen) d =>
  if seen.contains d.oid.text then (kept, seen) else (d :: kept, seen.insert d.oid.text)

/-- The definitions that are kept are those that a run through the list finds new. -/
theorem distinct_eq (definitions : List Definition) :
    distinct definitions = (definitions.foldl keep ([], ∅)).1.reverse := rfl

theorem foldl_keep_of_nodup {definitions kept : List Definition} {seen : TextSet}
    (apart : (definitions.map fun d => d.oid.text).Nodup)
    (fresh : ∀ d ∈ definitions, d.oid.text ∉ seen) :
    (definitions.foldl keep (kept, seen)).1 = definitions.reverse ++ kept := by
  induction definitions generalizing kept seen with
  | nil => rfl
  | cons d definitions ih =>
    obtain ⟨own, apart⟩ := List.nodup_cons.1 apart
    obtain ⟨first, later⟩ := List.forall_mem_cons.1 fresh
    have step : keep (kept, seen) d = (d :: kept, seen.insert d.oid.text) := by
      rw [keep, if_neg]
      simpa using first
    have still : ∀ e ∈ definitions, e.oid.text ∉ seen.insert d.oid.text := by
      intro e member inside
      rcases TextSet.mem_insert_iff.1 inside with same | known
      · exact own (List.mem_map.2 ⟨e, member, same.symm⟩)
      · exact later e member known
    rw [List.foldl_cons, step, ih apart still, List.reverse_cons, List.append_assoc]
    rfl

/-- Nothing is dropped from a list in which no identifier occurs twice. -/
theorem distinct_of_nodup {definitions : List Definition}
    (apart : (definitions.map fun d => d.oid.text).Nodup) : distinct definitions = definitions := by
  rw [distinct_eq, foldl_keep_of_nodup apart (by simp), List.append_nil, List.reverse_reverse]

theorem keep_eq (state : Kept) (d : Definition) : keep state d =
    if state.2.contains d.oid.text then state else (d :: state.1, state.2.insert d.oid.text) := rfl

theorem mem_keep {state : Kept} {d : Definition} {oid : String} :
    oid ∈ (keep state d).2 ↔ oid ∈ state.2 ∨ d.oid.text = oid := by
  rw [keep_eq]
  split
  · rename_i known
    refine (or_iff_left_of_imp ?_).symm
    rintro rfl
    exact Std.ExtTreeSet.mem_iff_contains.2 known
  · rw [TextSet.mem_insert_iff, or_comm]

/-- No identifier is kept twice, and those that occurred are those that are kept. -/
structure Kept.Apart (state : Kept) : Prop where
  nodup : (state.1.map fun d => d.oid.text).Nodup
  seen : ∀ oid, oid ∈ state.2 ↔ ∃ d ∈ state.1, d.oid.text = oid

theorem Kept.Apart.keep {state : Kept} (apart : state.Apart) (d : Definition) :
    (keep state d).Apart := by
  rw [keep_eq]
  split
  · exact apart
  · rename_i fresh
    refine ⟨List.nodup_cons.2 ⟨fun member => fresh ?_, apart.nodup⟩, fun oid => ?_⟩
    · exact Std.ExtTreeSet.mem_iff_contains.1 ((apart.seen _).2 (List.mem_map.1 member))
    · rw [TextSet.mem_insert_iff, apart.seen, List.exists_mem_cons_iff]

theorem Kept.Apart.foldl {state : Kept} (apart : state.Apart) (definitions : List Definition) :
    Kept.Apart (definitions.foldl Hierarchy.keep state) := by
  induction definitions generalizing state with
  | nil => exact apart
  | cons d definitions ih => exact ih (apart.keep d)

theorem apart_foldl_keep (definitions : List Definition) :
    Kept.Apart (definitions.foldl keep ([], ∅)) :=
  Kept.Apart.foldl ⟨by simp, by simp⟩ definitions

theorem nodup_distinct (definitions : List Definition) :
    ((distinct definitions).map fun d => d.oid.text).Nodup := by
  rw [distinct_eq, List.map_reverse]
  exact (List.reverse_perm _).nodup_iff.2 (apart_foldl_keep definitions).nodup

/-- One definition is kept for each identifier. -/
theorem exists_distinct_iff {definitions : List Definition} {oid : String} :
    (∃ d ∈ distinct definitions, d.oid.text = oid) ↔ ∃ d ∈ definitions, d.oid.text = oid := by
  simp only [distinct_eq, List.mem_reverse]
  rw [← (apart_foldl_keep definitions).seen,
    foldl_gains (fun state : Kept => oid ∈ state.2) (fun d : Definition => d.oid.text = oid)
      (fun _ _ => mem_keep)]
  simp

theorem getElem?_foldl_insertIfNew {spellings : List String}
    {owners : Std.ExtTreeMap String String} {oid key : String} :
    (spellings.foldl (fun owners name => owners.insertIfNew (nameKey name) oid) owners)[key]? =
      owners[key]?.or (if key ∈ spellings.map nameKey then some oid else none) := by
  induction spellings generalizing owners with
  | nil => simp
  | cons name spellings ih =>
    rw [List.foldl_cons, ih, Std.ExtTreeMap.getElem?_insertIfNew, List.map_cons]
    simp only [Std.LawfulEqCmp.compare_eq_iff_eq, List.mem_cons,
      Std.ExtTreeMap.mem_iff_isSome_getElem?]
    by_cases same : nameKey name = key
    · subst same
      cases owners[nameKey name]? with
      | none => simp
      | some other => simp
    · simp [same, Ne.symm same]

/-- A key belongs to whom it belonged to before, and else to the first definition that has it. -/
theorem getElem?_foldl_owners {definitions : List Definition}
    {owners : Std.ExtTreeMap String String} {key : String} :
    (definitions.foldl (fun owners d =>
      d.spellings.foldl (fun owners name => owners.insertIfNew (nameKey name) d.oid.text) owners)
      owners)[key]? =
      owners[key]?.or
        ((definitions.find? fun d => d.keys.contains key).map fun d => d.oid.text) := by
  induction definitions generalizing owners with
  | nil => simp
  | cons d definitions ih =>
    rw [List.foldl_cons, ih, getElem?_foldl_insertIfNew, Option.or_assoc, List.find?_cons]
    by_cases own : key ∈ d.keys
    · have taken : key ∈ d.spellings.map nameKey := own
      simp [own, taken]
    · have free : key ∉ d.spellings.map nameKey := own
      simp [own, free]

/-- A key belongs to the first of the kept definitions that has it. -/
theorem getElem?_owners (definitions : List Definition) (key : String) :
    (owners definitions)[key]? =
      ((distinct definitions).find? fun d => d.keys.contains key).map fun d => d.oid.text := by
  rw [owners, getElem?_foldl_owners, Std.ExtTreeMap.getElem?_empty, Option.none_or]

theorem owner_of_getElem? {definitions : List Definition}
    (apart : (definitions.map fun d => d.oid.text).Nodup) {key oid : String}
    (found : (owners definitions)[key]? = some oid) :
    ∃ d ∈ definitions, d.oid.text = oid ∧ key ∈ d.keys := by
  rw [getElem?_owners, distinct_of_nodup apart] at found
  obtain ⟨d, first, same⟩ := Option.map_eq_some_iff.1 found
  have own := List.find?_some first
  exact ⟨d, List.mem_of_find?_eq_some first, same, by simpa using own⟩

theorem exists_owner {definitions : List Definition}
    (apart : (definitions.map fun d => d.oid.text).Nodup) {d : Definition}
    (member : d ∈ definitions) {key : String} (own : key ∈ d.keys) :
    ∃ oid, (owners definitions)[key]? = some oid := by
  rw [getElem?_owners, distinct_of_nodup apart, ← Option.isSome_iff_exists, Option.isSome_map,
    List.find?_isSome]
  exact ⟨d, member, by simpa using own⟩

/-- A key belongs to what a name map binds it to, if the map holds the keys of the definitions and
no others. -/
theorem owner_iff_bound {definitions : List Definition} {names : NameMap}
    (apart : (definitions.map fun d => d.oid.text).Nodup)
    (bound : ∀ {key : String} {oid : Oid}, names.bindings[key]? = some oid ↔
      ∃ d ∈ definitions, d.oid = oid ∧ key ∈ d.keys) {key sup : String} :
    (owners definitions)[key]? = some sup ↔
      ∃ oid : Oid, oid.text = sup ∧ names.bindings[key]? = some oid := by
  have owned : ∀ {sup : String}, (owners definitions)[key]? = some sup →
      ∃ oid : Oid, oid.text = sup ∧ names.bindings[key]? = some oid := by
    intro sup found
    obtain ⟨d, member, same, own⟩ := owner_of_getElem? apart found
    exact ⟨d.oid, same, bound.2 ⟨d, member, rfl, own⟩⟩
  refine ⟨owned, ?_⟩
  rintro ⟨oid, rfl, found⟩
  obtain ⟨d, member, _, own⟩ := bound.1 found
  obtain ⟨sup, belongs⟩ := exists_owner apart member own
  obtain ⟨other, rfl, again⟩ := owned belongs
  rw [belongs, Option.some.inj (again.symm.trans found)]

theorem edge_addEdge {superiors : Std.ExtTreeMap String (List String)}
    {oid target sub sup : String} :
    Leads (addEdge superiors oid target) id sub sup ↔
      Leads superiors id sub sup ∨ sub = oid ∧ sup = target := by
  unfold Leads addEdge
  simp only [Std.ExtTreeMap.getElem?_alter, Std.LawfulEqCmp.compare_eq_iff_eq, id_eq]
  by_cases same : oid = sub
  · subst same
    cases superiors[oid]? with
    | none => simp
    | some targets =>
      by_cases known : target ∈ targets
      · simp only [known, Option.getD_some, List.contains_eq_mem, decide_true, if_true,
          Option.some.injEq, exists_eq_left', true_and]
        exact (or_iff_left_of_imp fun here => here ▸ known).symm
      · simp [known]
  · simp [same, Ne.symm same]

theorem mem_addEdge {superiors : Std.ExtTreeMap String (List String)} {oid target node : String} :
    node ∈ addEdge superiors oid target ↔ node ∈ superiors ∨ node = oid := by
  rw [addEdge, Std.ExtTreeMap.mem_alter]
  simp only [Std.LawfulEqCmp.compare_eq_iff_eq]
  by_cases same : oid = node
  · simp [same]
  · simp [same, Ne.symm same]

/-- The graph with the edge of a reference, where it stands for anything. -/
def addReference (superiors : Std.ExtTreeMap String (List String)) (reference : Reference) :
    Std.ExtTreeMap String (List String) :=
  match reference.target with
  | some target => addEdge superiors reference.oid target
  | none => superiors

/-- The graph with a node that has no edges. -/
def addNode (superiors : Std.ExtTreeMap String (List String)) (d : Definition) :
    Std.ExtTreeMap String (List String) :=
  superiors.insert d.oid.text []

/-- The edges of a graph are drawn one reference after the other. -/
theorem superiors_ofDefinitions (definitions : List Definition) :
    (ofDefinitions definitions).superiors =
      (references definitions).foldl addReference ((distinct definitions).foldl addNode ∅) := rfl

theorem edge_addReference {superiors : Std.ExtTreeMap String (List String)}
    {reference : Reference} {sub sup : String} :
    Leads (addReference superiors reference) id sub sup ↔
      Leads superiors id sub sup ∨ sub = reference.oid ∧ reference.target = some sup := by
  unfold addReference
  cases reference.target with
  | none => simp
  | some target => rw [edge_addEdge, Option.some_inj, eq_comm (a := target)]

theorem mem_addReference {superiors : Std.ExtTreeMap String (List String)}
    {reference : Reference} {node : String} :
    node ∈ addReference superiors reference ↔
      node ∈ superiors ∨ node = reference.oid ∧ reference.target.isSome = true := by
  unfold addReference
  cases reference.target with
  | none => simp
  | some target => simp [mem_addEdge]

theorem not_edge_foldl_addNode {definitions : List Definition}
    {superiors : Std.ExtTreeMap String (List String)} (idle : ∀ sub sup, ¬ Leads superiors id sub sup)
    (sub sup : String) : ¬ Leads (definitions.foldl addNode superiors) id sub sup := by
  induction definitions generalizing superiors with
  | nil => exact idle sub sup
  | cons d definitions ih =>
    refine ih fun sub sup edge => ?_
    obtain ⟨targets, stored, member⟩ := edge
    rw [addNode, Std.ExtTreeMap.getElem?_insert] at stored
    split at stored
    · rw [← Option.some.inj stored] at member
      simp at member
    · exact idle sub sup ⟨targets, stored, member⟩

theorem mem_foldl_addNode {definitions : List Definition} {node : String} :
    node ∈ definitions.foldl addNode ∅ ↔ ∃ d ∈ definitions, d.oid.text = node := by
  rw [foldl_gains (fun superiors => node ∈ superiors) (fun d : Definition => d.oid.text = node)
    (fun superiors d => by
      rw [addNode, Std.ExtTreeMap.mem_insert, Std.LawfulEqCmp.compare_eq_iff_eq, or_comm])]
  simp

theorem mem_references {definitions : List Definition} {reference : Reference} :
    reference ∈ references definitions ↔ ∃ d ∈ definitions, ∃ superior ∈ d.superiors,
      reference = ⟨d.oid.text, superior, (owners definitions)[nameKey superior]?⟩ := by
  simp only [references, List.mem_flatMap, List.mem_map, eq_comm]

/-- The edges of the graph: a superior leads to the definition that its key belongs to. -/
theorem edge_ofDefinitions {definitions : List Definition} {sub sup : String} :
    (ofDefinitions definitions).Edge sub sup ↔ ∃ d ∈ definitions, d.oid.text = sub ∧
      ∃ superior ∈ d.superiors, (owners definitions)[nameKey superior]? = some sup := by
  have start : ¬ Leads ((distinct definitions).foldl addNode ∅) id sub sup :=
    not_edge_foldl_addNode (by simp [Leads]) sub sup
  rw [Edge, superiors_ofDefinitions,
    foldl_gains (fun superiors => Leads superiors id sub sup)
      (fun reference : Reference => sub = reference.oid ∧ reference.target = some sup)
      (fun _ _ => edge_addReference)]
  simp only [start, false_or, mem_references]
  constructor
  · rintro ⟨_, ⟨d, member, superior, named, rfl⟩, rfl, target⟩
    exact ⟨d, member, rfl, superior, named, target⟩
  · rintro ⟨d, member, rfl, superior, named, target⟩
    exact ⟨_, ⟨d, member, superior, named, rfl⟩, rfl, target⟩

/-- The references that lead nowhere: those whose key belongs to no definition. -/
theorem mem_unresolved {definitions : List Definition} {oid superior : String} :
    (oid, superior) ∈ (ofDefinitions definitions).unresolved ↔ ∃ d ∈ definitions,
      d.oid.text = oid ∧ superior ∈ d.superiors ∧ (owners definitions)[nameKey superior]? = none := by
  unfold ofDefinitions
  simp only [List.mem_filterMap, mem_references]
  constructor
  · rintro ⟨_, ⟨d, member, reference, named, rfl⟩, kept⟩
    cases target : (owners definitions)[nameKey reference]? with
    | some sup => simp [target] at kept
    | none =>
      simp only [target, Option.some.injEq, Prod.mk.injEq] at kept
      obtain ⟨rfl, rfl⟩ := kept
      exact ⟨d, member, rfl, named, target⟩
  · rintro ⟨d, member, rfl, named, free⟩
    exact ⟨_, ⟨d, member, superior, named, rfl⟩, by simp only [free]⟩

section Nodes

variable {definitions : List Definition}

/-- The nodes of the graph are the identifiers of the definitions. -/
theorem mem_nodes_ofDefinitions {oid : String} :
    oid ∈ (ofDefinitions definitions).nodes ↔ ∃ d ∈ definitions, d.oid.text = oid := by
  rw [ofDefinitions, List.mem_map, exists_distinct_iff]

theorem mem_superiors_ofDefinitions {oid : String} :
    oid ∈ (ofDefinitions definitions).superiors ↔ ∃ d ∈ definitions, d.oid.text = oid := by
  rw [superiors_ofDefinitions,
    foldl_gains (fun superiors => oid ∈ superiors)
      (fun reference : Reference => oid = reference.oid ∧ reference.target.isSome = true)
      (fun _ _ => mem_addReference), mem_foldl_addNode, exists_distinct_iff]
  refine or_iff_left_of_imp ?_
  rintro ⟨_, listed, rfl, _⟩
  obtain ⟨d, member, _, _, rfl⟩ := mem_references.1 listed
  exact ⟨d, member, rfl⟩

theorem mem_nodes_of_mem_superiors :
    ∀ oid ∈ (ofDefinitions definitions).superiors, oid ∈ (ofDefinitions definitions).nodes :=
  fun _ stored => mem_nodes_ofDefinitions.2 (mem_superiors_ofDefinitions.1 stored)

end Nodes

/-- No reference is listed twice if no superior is given twice. -/
theorem nodup_unresolved {definitions : List Definition}
    (apart : (definitions.map fun d => d.oid.text).Nodup)
    (once : ∀ d ∈ definitions, d.superiors.Nodup) :
    (ofDefinitions definitions).unresolved.Nodup := by
  have listed : (references definitions).Nodup := by
    refine List.nodup_flatMap.2 ⟨fun d member => ?_, ?_⟩
    · exact (once d member).map fun first second same => congrArg Reference.superior same
    · refine (List.pairwise_map.1 apart).imp fun {d e} differ reference one two => ?_
      obtain ⟨_, _, rfl⟩ := List.mem_map.1 one
      obtain ⟨_, _, same⟩ := List.mem_map.1 two
      exact differ (congrArg Reference.oid same).symm
  refine listed.filterMap ?_
  rintro ⟨oid, superior, _ | _⟩ ⟨other, reference, _ | _⟩ pair one two
  · simp only [Option.mem_def, Option.some.injEq] at one two
    obtain ⟨rfl, rfl⟩ := Prod.mk.inj (one.trans two.symm)
    rfl
  all_goals simp at one two

end Hierarchy

end Subschema
