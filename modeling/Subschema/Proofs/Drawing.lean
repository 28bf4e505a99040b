import Subschema.Hierarchy.Dot
import Subschema.Proofs.Arcs
import Subschema.Proofs.Mirror
import Subschema.Proofs.Reinstated
import Subschema.Proofs.Rendering
import Subschema.Proofs.Resolution

namespace Subschema

/-- Lines that have no break in them are found again in the text they make. -/
theorem Text.split_join_lines {lines : List String} (unbroken : ∀ line ∈ lines, '\n' ∉ line.toList) :
    split '\n' (String.join (lines.map fun line => line ++ "\n")) = lines ++ [""] := by
  have joined : (String.join (lines.map fun line => line ++ "\n")).toList =
      ['\n'].intercalate ((lines ++ [""]).map String.toList) := by
    clear unbroken
    induction lines with
    | nil => simp
    | cons line lines ih =>
      rw [List.map_cons, String.join_cons, String.toList_append, ih]
      cases lines <;> simp
  have parts : ∀ part ∈ (lines ++ [""]).map String.toList, '\n' ∉ part := by
    intro part among
    obtain ⟨line, listed, rfl⟩ := List.mem_map.1 among
    rcases List.mem_append.1 listed with member | last
    · exact unbroken line member
    · rw [List.mem_singleton.1 last]
      simp
  rw [split, joined, splitAt_intercalate parts (by simp), List.map_map]
  simp [Function.comp_def]

theorem not_mem_of_spelled {s : String} (spelled : Spelled s) {c : Char}
    (other : isSpellingChar c = false) : c ∉ s.toList :=
  fun member => by simp [spelled c member] at other

/-- Texts of characters above a mark keep their order if the mark and anything else is put after them. -/
theorem append_cons_lt {mark : Char} {cs ds rest others : List Char} (above : ∀ d ∈ ds, mark < d)
    (less : cs < ds) : cs ++ mark :: rest < ds ++ mark :: others := by
  induction cs generalizing ds with
  | nil =>
    cases ds with
    | nil => exact absurd less (List.lt_irrefl _)
    | cons d ds => exact List.cons_lt_cons_iff.2 (Or.inl (above d List.mem_cons_self))
  | cons c cs ih =>
    cases ds with
    | nil => exact absurd less (List.not_lt_nil _)
    | cons d ds =>
      refine List.cons_lt_cons_iff.2 ((List.cons_lt_cons_iff.1 less).imp_right ?_)
      rintro ⟨same, later⟩
      exact ⟨same, ih (List.forall_mem_cons.1 above).2 later⟩

theorem quote_lt_of_isNumericOid {s : String} (numeric : isNumericOid s.toList = true) :
    ∀ c ∈ s.toList, '"' < c := by
  intro c member
  rcases digit_or_dot_of_isNumericOid numeric c member with digit | rfl
  · have bounds := Text.isDigit_iff.1 digit
    exact UInt32.lt_iff_toNat_lt.2 (Nat.lt_of_lt_of_le (by decide) bounds.1)
  · decide

/-- Two lists in strict order with the same members are the same. -/
theorem eq_of_pairwise {β : Type} {before : β → β → Prop} (asymm : ∀ a b, before a b → ¬ before b a)
    {items others : List β} (ordered : items.Pairwise before) (also : others.Pairwise before)
    (same : ∀ item, item ∈ items ↔ item ∈ others) : items = others := by
  have apart : ∀ {a b : β}, before a b → a ≠ b := by
    rintro a _ less rfl
    exact asymm a a less less
  refine List.Perm.eq_of_pairwise (fun a b _ _ less more => absurd more (asymm a b less)) ordered also ?_
  exact (List.perm_ext_iff_of_nodup (ordered.imp apart) (also.imp apart)).2 same

theorem text_lt_asymm (a b : String) (less : a < b) : ¬ b < a :=
  fun more => String.lt_irrefl a (String.lt_trans less more)

namespace Hierarchy

theorem toList_dotNode (oid label : String) (root : Bool) :
    (dotNode oid label root).toList = "  \"".toList ++ (oid.toList ++ '"' :: (" [label=\"".toList ++
      (label.toList ++ '\\' :: ('n' :: oid.toList ++ "\", fillcolor=\"".toList ++
        (dotColour root).toList ++ "\"];".toList)))) := by
  simp [dotNode]

theorem toList_dotEdge (oid superior : String) :
    (dotEdge oid superior).toList = "  \"".toList ++ (oid.toList ++ '"' :: (" -> \"".toList ++
      (superior.toList ++ '"' :: [';']))) := by
  simp [dotEdge]

section Lines

variable {oid oid' label label' superior superior' : String} {root root' : Bool}

/-- The line of a node tells its identifier and its name. Nothing is escaped in it, and nothing
needs to be, as neither of them has quotes. -/
theorem dotNode_inj (spelled : Spelled oid) (spelled' : Spelled oid') (named : Spelled label)
    (named' : Spelled label') (same : dotNode oid label root = dotNode oid' label' root') :
    oid = oid' ∧ label = label' := by
  have texts := congrArg String.toList same
  rw [toList_dotNode, toList_dotNode] at texts
  obtain ⟨first, rest⟩ := delimits_spelled _ _ _ _ spelled spelled' (ends_cons rfl _) (ends_cons rfl _)
    (List.append_cancel_left texts)
  obtain ⟨second, _⟩ := delimits_spelled _ _ _ _ named named' (ends_cons rfl _) (ends_cons rfl _)
    (List.append_cancel_left (List.cons.inj rest).2)
  exact ⟨first, second⟩

/-- The line of an edge tells both of its ends. -/
theorem dotEdge_inj (spelled : Spelled oid) (spelled' : Spelled oid') (above : Spelled superior)
    (above' : Spelled superior') (same : dotEdge oid superior = dotEdge oid' superior') :
    oid = oid' ∧ superior = superior' := by
  have texts := congrArg String.toList same
  rw [toList_dotEdge, toList_dotEdge] at texts
  obtain ⟨first, rest⟩ := delimits_spelled _ _ _ _ spelled spelled' (ends_cons rfl _) (ends_cons rfl _)
    (List.append_cancel_left texts)
  obtain ⟨second, _⟩ := delimits_spelled _ _ _ _ above above' (ends_cons rfl _) (ends_cons rfl _)
    (List.append_cancel_left (List.cons.inj rest).2)
  exact ⟨first, second⟩

/-- Lines of nodes come in the order of the identifiers. The quote that ends an identifier comes
before all that it could have next. -/
theorem dotNode_lt (above : ∀ c ∈ oid'.toList, '"' < c) (less : oid < oid') :
    dotNode oid label root < dotNode oid' label' root' := by
  rw [String.lt_iff, toList_dotNode, toList_dotNode]
  exact List.append_left_lt (append_cons_lt above (String.lt_iff.1 less))

theorem dotEdge_lt (above : ∀ c ∈ oid'.toList, '"' < c) (above' : ∀ c ∈ superior'.toList, '"' < c)
    (less : oid < oid' ∨ oid = oid' ∧ superior < superior') :
    dotEdge oid superior < dotEdge oid' superior' := by
  rw [String.lt_iff, toList_dotEdge, toList_dotEdge]
  refine List.append_left_lt ?_
  rcases less with less | ⟨rfl, less⟩
  · exact append_cons_lt above (String.lt_iff.1 less)
  · refine List.append_left_lt (List.cons_lt_cons_self.2 (List.append_left_lt ?_))
    exact append_cons_lt above' (String.lt_iff.1 less)

/-- Neither names nor identifiers have line breaks. -/
theorem unbroken_dotNode (spelled : Spelled oid) (named : Spelled label) :
    '\n' ∉ (dotNode oid label root).toList := by
  have free : '\n' ∉ oid.toList := not_mem_of_spelled spelled rfl
  have free' : '\n' ∉ label.toList := not_mem_of_spelled named rfl
  cases root <;> simp [toList_dotNode, dotColour, free, free']

theorem unbroken_dotEdge (spelled : Spelled oid) (above : Spelled superior) :
    '\n' ∉ (dotEdge oid superior).toList := by
  have free : '\n' ∉ oid.toList := not_mem_of_spelled spelled rfl
  have free' : '\n' ∉ superior.toList := not_mem_of_spelled above rfl
  simp [toList_dotEdge, free, free']

end Lines

end Hierarchy

/-- Whether none of the superiors of a definition is registered. -/
def Registry.isRoot (registry : Registry) (d : Definition) : Bool :=
  d.superiors.all fun superior => !registry.store.contains superior

/-- The line of a registered definition. It has the colour of a root exactly if no superior is
registered. -/
def Registry.nodeLine (registry : Registry) (d : Definition) : String :=
  "  \"" ++ d.oid.text ++ "\" [label=\"" ++ d.name ++ "\\n" ++ d.oid.text ++ "\", fillcolor=\"" ++
    (if ∃ superior ∈ d.superiors, registry.store.contains superior = true then "#00BCD4"
      else "#607D8B") ++ "\"];"

/-- The line of an edge to a registered superior. -/
def Registry.edgeLine (edge : String × String) : String :=
  "  \"" ++ edge.1 ++ "\" -> \"" ++ edge.2 ++ "\";"

/-- The line of a definition that is registered is the one that the graph draws for it. -/
theorem Registry.nodeLine_eq (registry : Registry) (d : Definition) :
    registry.nodeLine d = Hierarchy.dotNode d.oid.text d.name (registry.isRoot d) := by
  have colour : (if ∃ superior ∈ d.superiors, registry.store.contains superior = true then "#00BCD4"
      else "#607D8B") = Hierarchy.dotColour (registry.isRoot d) := by
    rw [Hierarchy.dotColour, ← ite_not]
    refine if_congr ?_ rfl rfl
    simp [isRoot]
  rw [nodeLine, colour, Hierarchy.dotNode]

theorem Registry.edgeLine_eq (edge : String × String) :
    edgeLine edge = Hierarchy.dotEdge edge.1 edge.2 := rfl

/-- One edge comes before another: by the definition, then by the superior. -/
def Hierarchy.EdgeBefore (a b : String × String) : Prop := a.1 < b.1 ∨ a.1 = b.1 ∧ a.2 < b.2

theorem Definition.spelled_name {d : Definition} (spelt : d.WellSpelt) : Spelled d.name := by
  rw [name]
  cases names : d.names with
  | nil => exact d.oid.spelled
  | cons first rest =>
    exact spelt.spelled_of_name first (names ▸ List.mem_cons_self)

/-- As no name is spelled like an identifier, what is shown for a definition tells its primary name. -/
theorem Definition.head?_names_of_name_eq {d e : Definition} (spelt : d.WellSpelt) (also : e.WellSpelt)
    (same : d.name = e.name) : d.names.head? = e.names.head? := by
  have apart : ∀ {d : Definition} (oid : Oid) {name : String}, d.WellSpelt → name ∈ d.names →
      name ≠ oid.text := by
    rintro d oid _ spelt member rfl
    have descr := checkName_eq_ok_iff.1 (spelt.named _ member)
    exact map_asciiLower_ne_of_isDescr descr oid.numeric (map_asciiLower_of_isNumericOid oid.numeric)
  unfold name at same
  cases here : d.names with
  | nil =>
    cases there : e.names with
    | nil => rfl
    | cons other _ =>
      rw [here, there] at same
      have member : other ∈ e.names := there ▸ List.mem_cons_self
      exact absurd same.symm (apart d.oid also member)
  | cons name _ =>
    cases there : e.names with
    | nil =>
      rw [here, there] at same
      have member : name ∈ d.names := here ▸ List.mem_cons_self
      exact absurd same (apart e.oid spelt member)
    | cons other _ =>
      rw [here, there] at same
      exact congrArg some same

namespace Hierarchy

theorem pairwise_edges (definitions : List Definition) :
    (ofDefinitions definitions).edges.Pairwise EdgeBefore := by
  refine List.pairwise_flatMap.2 ⟨fun ⟨oid, targets⟩ listed => ?_, ?_⟩
  · have stored := Std.ExtTreeMap.mem_toList_iff_getElem?_eq_some.1 listed
    have ordered := pairwise_sorted (simple_ofDefinitions definitions oid targets stored)
    exact List.pairwise_map.2 (ordered.imp fun less => Or.inr ⟨rfl, less⟩)
  · have ordered := Std.ExtTreeMap.ordered_keys_toList (t := (ofDefinitions definitions).superiors)
    refine ordered.imp ?_
    rintro ⟨one, targets⟩ ⟨two, others⟩ less pair first pair' second
    obtain ⟨_, _, rfl⟩ := List.mem_map.1 first
    obtain ⟨_, _, rfl⟩ := List.mem_map.1 second
    exact Or.inl (compareOfLessAndEq_eq_lt.1 less)

section Registered

variable {registry : Registry} (reached : registry.Reached) {definitions : List Definition}
  (same : definitions.Perm registry.store.toList)

include reached same

theorem sortedNodes_of_perm : (ofDefinitions definitions).sortedNodes =
    registry.store.toList.map fun d => d.oid.text := by
  refine eq_of_pairwise text_lt_asymm (pairwise_sorted (nodup_distinct definitions))
    reached.sound.coherent.pairwise_toList fun oid => ?_
  rw [sortedNodes, mem_sorted, mem_nodes_ofDefinitions, List.mem_map]
  simp only [same.mem_iff]

theorem label_of_perm {d : Definition} (member : d ∈ definitions) :
    (ofDefinitions definitions).labels.getD d.oid.text d.oid.text = d.name := by
  have apart := nodup_of_perm reached same
  have labels : (ofDefinitions definitions).labels =
      (distinct definitions).foldl (fun labels d => labels.insert d.oid.text d.name) ∅ := rfl
  rw [Std.ExtTreeMap.getD_eq_getD_getElem?, labels, distinct_of_nodup apart,
    Bundle.getElem?_foldl_insert apart member, Option.getD_some]

/-- A node without superiors in the graph is a definition of whose superiors none is registered. -/
theorem isEmpty_edgesOf_of_perm {d : Definition} (member : d ∈ definitions) :
    ((ofDefinitions definitions).edgesOf d.oid.text).isEmpty = registry.isRoot d := by
  have stored := (mem_iff_of_perm reached same).1 ⟨member, rfl⟩
  have named : ∀ {superior : String}, registry.store.Names d.oid.text superior ↔ superior ∈ d.superiors := by
    intro superior
    constructor
    · rintro ⟨e, again, names⟩
      rwa [← Option.some.inj (stored.symm.trans again)] at names
    · exact fun names => ⟨d, stored, names⟩
  rw [Bool.eq_iff_iff, List.isEmpty_iff, List.eq_nil_iff_forall_not_mem, Registry.isRoot, List.all_eq_true]
  refine forall_congr' fun superior => ?_
  rw [mem_edgesOf, edge_of_perm reached same, named, not_and, Bool.not_eq_true, Bool.not_eq_true']

theorem edges_of_perm : (ofDefinitions definitions).edges = (ofRegistry registry).edges := by
  have asymm : ∀ a b, EdgeBefore a b → ¬ EdgeBefore b a := by
    rintro ⟨a, c⟩ ⟨b, d⟩ (less | ⟨equal, less⟩) (more | ⟨equal', more⟩)
    · exact text_lt_asymm _ _ less more
    · exact String.lt_irrefl _ (equal' ▸ less)
    · exact String.lt_irrefl _ (equal ▸ more)
    · exact text_lt_asymm _ _ less more
  refine eq_of_pairwise asymm (pairwise_edges definitions) (pairwise_edges registry.store.toList) ?_
  rintro ⟨sub, sup⟩
  rw [ofRegistry, mem_edges, mem_edges, edge_of_perm reached same, edge_of_perm reached (.refl _)]

/-- The drawing does not tell in which order the definitions were listed. -/
theorem toDot_of_perm : (ofDefinitions definitions).toDot =
    String.join ((dotLines (registry.store.toList.map registry.nodeLine)
      ((ofRegistry registry).edges.map fun (oid, superior) => dotEdge oid superior)).map
        fun line => line ++ "\n") := by
  have nodes : (ofDefinitions definitions).sortedNodes.map (fun oid => dotNode oid
      ((ofDefinitions definitions).labels.getD oid oid) ((ofDefinitions definitions).edgesOf oid).isEmpty) =
        registry.store.toList.map registry.nodeLine := by
    rw [sortedNodes_of_perm reached same, List.map_map]
    refine List.map_congr_left fun d member => ?_
    have listed := same.mem_iff.2 member
    rw [Registry.nodeLine_eq, ← label_of_perm reached same listed,
      ← isEmpty_edgesOf_of_perm reached same listed]
    rfl
  rw [toDot, nodes, edges_of_perm reached same]

end Registered

end Hierarchy

namespace Registry

open Hierarchy

variable {registry : Registry}

theorem Reached.wellSpelt_of_mem (reached : registry.Reached) {d : Definition}
    (member : d ∈ registry.store.toList) : d.WellSpelt :=
  reached.wellSpelt (reached.sound.coherent.mem_toList.1 member)

/-- There is an edge for each superior that is registered. -/
theorem Reached.mem_edges_iff (reached : registry.Reached) {sub sup : String} :
    (sub, sup) ∈ (ofRegistry registry).edges ↔
      registry.store.Names sub sup ∧ registry.store.contains sup = true := by
  rw [ofRegistry, mem_edges, edge_of_perm reached (.refl _)]

theorem Reached.numeric_of_mem_edges (reached : registry.Reached) {edge : String × String}
    (member : edge ∈ (ofRegistry registry).edges) :
    isNumericOid edge.1.toList = true ∧ isNumericOid edge.2.toList = true := by
  obtain ⟨⟨d, stored, named⟩, _⟩ := reached.mem_edges_iff.1 member
  have own := reached.sound.coherent.keyed stored
  exact ⟨own ▸ d.oid.numeric, (reached.canonical _ d stored).numeric _ named⟩

theorem Reached.toDot_eq (reached : registry.Reached) : (ofRegistry registry).toDot =
    String.join ((dotLines (registry.store.toList.map registry.nodeLine)
      ((ofRegistry registry).edges.map edgeLine)).map fun line => line ++ "\n") :=
  toDot_of_perm reached (.refl _)

/-- No line is broken, so that the text falls into the lines that it was made of. -/
theorem Reached.split_toDot (reached : registry.Reached) :
    Text.split '\n' (ofRegistry registry).toDot =
      dotLines (registry.store.toList.map registry.nodeLine)
        ((ofRegistry registry).edges.map edgeLine) ++ [""] := by
  have header : ∀ line ∈ dotHeader, '\n' ∉ line.toList := by
    simp only [dotHeader, List.forall_mem_cons, String.toList_append]
    repeat rw [String.toList_ofList]
    decide
  rw [reached.toDot_eq]
  refine Text.split_join_lines fun line listed => ?_
  simp only [dotLines, List.mem_append, List.mem_cons, List.mem_map, List.not_mem_nil, or_false] at listed
  rcases listed with ((first | ⟨d, member, rfl⟩) | rfl | ⟨edge, member, rfl⟩) | rfl
  · exact header line first
  · rw [nodeLine_eq]
    exact unbroken_dotNode d.oid.spelled (d.spelled_name (reached.wellSpelt_of_mem member))
  · simp
  · obtain ⟨sub, sup⟩ := reached.numeric_of_mem_edges member
    rw [edgeLine_eq]
    exact unbroken_dotEdge (spelled_of_isNumericOid sub) (spelled_of_isNumericOid sup)
  · simp

theorem Reached.pairwise_nodeLine (reached : registry.Reached) :
    (registry.store.toList.map registry.nodeLine).Pairwise (· < ·) := by
  have ordered := List.pairwise_map.1 reached.sound.coherent.pairwise_toList
  refine List.pairwise_map.2 (ordered.imp fun less => ?_)
  rw [nodeLine_eq, nodeLine_eq]
  exact dotNode_lt (quote_lt_of_isNumericOid (Oid.numeric _)) less

theorem Reached.pairwise_edgeLine (reached : registry.Reached) :
    ((ofRegistry registry).edges.map edgeLine).Pairwise (· < ·) := by
  refine List.pairwise_map.2 ((pairwise_edges registry.store.toList).imp_of_mem fun _ member before => ?_)
  obtain ⟨sub, sup⟩ := reached.numeric_of_mem_edges member
  rw [edgeLine_eq, edgeLine_eq]
  exact dotEdge_lt (quote_lt_of_isNumericOid sub) (quote_lt_of_isNumericOid sup) before

/-- A text draws what is registered. It has a line for each definition, of which the colour tells
whether one of its superiors is registered, and a line for each registered superior of a definition; no
other line is of either kind. -/
structure Draws (registry : Registry) (definitions : List Definition) (pairs : List (String × String))
    (text : String) : Prop where
  lines : Text.split '\n' text =
    ["digraph SchemaHierarchy \x7b",
      "  rankdir=BT;",
      "  bgcolor=\"#1e1e1e\";",
      "  node [shape=box, style=\"filled,rounded\", fontname=\"Helvetica\", fontsize=10, " ++
        "fontcolor=\"white\", color=\"#404040\", fillcolor=\"#00BCD4\"];",
      "  edge [color=\"#808080\"];",
      ""] ++ definitions.map registry.nodeLine ++ [""] ++ pairs.map edgeLine ++ ["\x7d", ""]
  nodes : ∀ d, d ∈ definitions ↔ registry.store.get? d.oid.text = some d
  edges : ∀ sub sup, (sub, sup) ∈ pairs ↔
    registry.store.Names sub sup ∧ registry.store.contains sup = true
  /-- Nodes are in strict order, by their identifiers and as lines. -/
  nodesOrdered : (definitions.map fun d => d.oid.text).Pairwise (· < ·) ∧
    (definitions.map registry.nodeLine).Pairwise (· < ·)
  edgesOrdered : pairs.Pairwise EdgeBefore ∧ (pairs.map edgeLine).Pairwise (· < ·)

/-- The drawing of what is registered has the lines that it is to have. -/
theorem Reached.draws (reached : registry.Reached) : registry.Draws registry.store.toList
    (ofRegistry registry).edges (ofRegistry registry).toDot where
  lines := by
    rw [reached.split_toDot]
    simp only [dotLines, dotHeader, List.append_assoc, List.cons_append, List.nil_append]
  nodes := fun _ => reached.sound.coherent.mem_toList
  edges := fun _ _ => reached.mem_edges_iff
  nodesOrdered := ⟨reached.sound.coherent.pairwise_toList, reached.pairwise_nodeLine⟩
  edgesOrdered := ⟨pairwise_edges registry.store.toList, reached.pairwise_edgeLine⟩

/-- The lines of the nodes end at the blank line, so they and those of the edges can be told apart. -/
theorem lines_inj {nodes edges others further : List String} (full : "" ∉ nodes) (also : "" ∉ others)
    (same : dotLines nodes edges ++ [""] = dotLines others further ++ [""]) :
    nodes = others ∧ edges = further := by
  unfold dotLines at same
  simp only [List.append_assoc, List.cons_append] at same
  obtain ⟨first, rest⟩ := append_cons_inj_of_first full also (List.append_cancel_left same)
  exact ⟨first, List.append_cancel_right rest⟩

/-- What two registries with the same drawing have in common. -/
structure DrawnAlike (one two : Registry) : Prop where
  /-- The same identifiers are registered, each with the same primary name or without names. -/
  names : ∀ oid, (one.store.get? oid).map (fun d => d.names.head?) =
    (two.store.get? oid).map fun d => d.names.head?
  superiors : ∀ sub sup, one.store.Names sub sup ∧ one.store.contains sup = true ↔
    two.store.Names sub sup ∧ two.store.contains sup = true

/-- The lines of the nodes tell what is registered, and the primary names. -/
theorem exists_of_nodeLines {one two : Registry} (reached : one.Reached) (also : two.Reached)
    (same : one.store.toList.map one.nodeLine = two.store.toList.map two.nodeLine) {oid : String}
    {d : Definition} (stored : one.store.get? oid = some d) :
    ∃ e, two.store.get? oid = some e ∧ d.names.head? = e.names.head? := by
  have listed := reached.sound.coherent.get?_eq_some_iff.1 stored
  obtain ⟨member, rfl⟩ := listed
  obtain ⟨e, among, line⟩ := List.mem_map.1 (same ▸ List.mem_map_of_mem (f := one.nodeLine) member)
  have spelt := reached.wellSpelt_of_mem member
  have spelt' := also.wellSpelt_of_mem among
  rw [nodeLine_eq, nodeLine_eq] at line
  obtain ⟨oid, name⟩ := dotNode_inj e.oid.spelled d.oid.spelled (e.spelled_name spelt')
    (d.spelled_name spelt) line
  exact ⟨e, oid ▸ also.sound.coherent.mem_toList.1 among,
    Definition.head?_names_of_name_eq spelt spelt' name.symm⟩

/-- The lines of the edges tell which superiors are registered. -/
theorem names_of_edgeLines {one two : Registry} (reached : one.Reached) (also : two.Reached)
    (same : (ofRegistry one).edges.map edgeLine = (ofRegistry two).edges.map edgeLine) {sub sup : String}
    (edge : one.store.Names sub sup ∧ one.store.contains sup = true) :
    two.store.Names sub sup ∧ two.store.contains sup = true := by
  have member := reached.mem_edges_iff.2 edge
  obtain ⟨⟨sub', sup'⟩, among, line⟩ := List.mem_map.1 (same ▸ List.mem_map_of_mem (f := edgeLine) member)
  have numeric := reached.numeric_of_mem_edges member
  have numeric' := also.numeric_of_mem_edges among
  obtain ⟨rfl, rfl⟩ := dotEdge_inj (spelled_of_isNumericOid numeric'.1) (spelled_of_isNumericOid numeric.1)
    (spelled_of_isNumericOid numeric'.2) (spelled_of_isNumericOid numeric.2) line
  exact also.mem_edges_iff.1 among

theorem blank_not_mem_nodeLines (registry : Registry) :
    "" ∉ registry.store.toList.map registry.nodeLine := by
  intro member
  obtain ⟨d, _, line⟩ := List.mem_map.1 member
  have chars := congrArg String.toList line
  simp [nodeLine_eq, toList_dotNode] at chars

theorem Reached.drawnAlike {one two : Registry} (reached : one.Reached) (also : two.Reached)
    (same : (ofRegistry one).toDot = (ofRegistry two).toDot) : one.DrawnAlike two := by
  have lines := reached.split_toDot
  rw [same, also.split_toDot] at lines
  obtain ⟨nodes, edges⟩ := lines_inj (blank_not_mem_nodeLines two) (blank_not_mem_nodeLines one) lines
  refine ⟨fun oid => ?_, fun sub sup =>
    ⟨names_of_edgeLines reached also edges.symm, names_of_edgeLines also reached edges⟩⟩
  cases here : one.store.get? oid with
  | some d =>
    obtain ⟨e, stored, names⟩ := exists_of_nodeLines reached also nodes.symm here
    rw [stored, Option.map_some, Option.map_some, names]
  | none =>
    cases there : two.store.get? oid with
    | some e =>
      obtain ⟨d, stored, _⟩ := exists_of_nodeLines also reached nodes there
      simp [here] at stored
    | none => rfl

/-- The drawing of a registry has one line for each registered definition and one for each superior of
it that is registered, both in order. It does not depend on the calls that have led to the registry or
on the order in which its definitions are gone through, and it tells which identifiers are registered,
with which primary names, and which registered superiors they have. -/
theorem Reached.drawing_exact {registry : Registry} (reached : registry.Reached) :
    (∃ definitions pairs, registry.Draws definitions pairs (ofRegistry registry).toDot) ∧
    (∀ definitions : List Definition, definitions.Perm registry.store.toList →
      (ofDefinitions definitions).toDot = (ofRegistry registry).toDot) ∧
    ∀ other : Registry, other.Reached →
      ((∀ d, d ∈ other.store.toList ↔ d ∈ registry.store.toList) →
        (ofRegistry other).toDot = (ofRegistry registry).toDot) ∧
      ((ofRegistry other).toDot = (ofRegistry registry).toDot → other.DrawnAlike registry) := by
  refine ⟨⟨_, _, reached.draws⟩, fun definitions same => ?_, fun other also => ⟨fun same => ?_, ?_⟩⟩
  · exact (toDot_of_perm reached same).trans reached.toDot_eq.symm
  · have perm := also.sound.coherent.perm_of_mem_iff reached.sound.coherent same
    exact (toDot_of_perm reached perm).trans reached.toDot_eq.symm
  · exact also.drawnAlike reached

/-- The same definitions, registered in different order, make the same drawing. Where the superior is
missing, the definition is drawn as a root. -/
theorem Reached.drawing_exact_sample :
    (Hierarchy.ofRegistry Sample.full).toDot = (Hierarchy.ofRegistry Sample.strictBoth).toDot ∧
      (Hierarchy.ofRegistry Sample.orphaned).toDot ≠ (Hierarchy.ofRegistry Sample.strictBoth).toDot ∧
      "  \"2.5.6.6\" [label=\"person\\n2.5.6.6\", fillcolor=\"#00BCD4\"];" ∈
        Text.split '\n' (Hierarchy.ofRegistry Sample.strictBoth).toDot ∧
      "  \"2.5.6.6\" [label=\"person\\n2.5.6.6\", fillcolor=\"#607D8B\"];" ∈
        Text.split '\n' (Hierarchy.ofRegistry Sample.orphaned).toDot := by
  obtain ⟨⟨definitions, pairs, draws⟩, _, tells⟩ := drawing_exact Sample.strictBoth_reached
  obtain ⟨⟨definitions', pairs', draws'⟩, _⟩ := drawing_exact Sample.orphaned_reached
  refine ⟨(tells Sample.full Sample.full_reached).1 fun _ => by rw [Sample.toList_strictBoth],
    fun same => ?_, ?_, ?_⟩
  · have names := ((tells Sample.orphaned Sample.orphaned_reached).2 same).names "2.5.6.0"
    exact absurd names (by decide +kernel)
  · have member := (draws.nodes Sample.person).2 (by decide +kernel)
    have line : Sample.strictBoth.nodeLine Sample.person =
      "  \"2.5.6.6\" [label=\"person\\n2.5.6.6\", fillcolor=\"#00BCD4\"];" := by decide +kernel
    rw [draws.lines, ← line]
    simp [List.mem_map_of_mem member]
  · have member := (draws'.nodes Sample.person).2 (by decide +kernel)
    have line : Sample.orphaned.nodeLine Sample.person =
      "  \"2.5.6.6\" [label=\"person\\n2.5.6.6\", fillcolor=\"#607D8B\"];" := by decide +kernel
    rw [draws'.lines, ← line]
    simp [List.mem_map_of_mem member]

end Registry

end Subschema
