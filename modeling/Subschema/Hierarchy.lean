import Subschema.Components
import Subschema.Loop
import Subschema.Registry

namespace Subschema

/-- A superior reference, with the identifier of the definition that holds it and the identifier
it stands for, if any. -/
structure Reference where
  oid : String
  superior : String
  target : Option String
  deriving DecidableEq

/-- The graph of a list of definitions, with an edge from each to each of its superiors. The
superiors are found among the definitions themselves, by identifier or name. -/
structure Hierarchy where
  /-- The identifiers, in the order of the list. -/
  nodes : List String
  /-- The primary name of each definition. -/
  labels : Std.ExtTreeMap String String
  /-- The superiors of each definition, in the order in which they are first named. -/
  superiors : Std.ExtTreeMap String (List String)
  /-- The references that stand for nothing, in the order of the list. -/
  unresolved : List (String × String)

namespace Hierarchy

/-- The definitions that are the first with their identifier. -/
def distinct (definitions : List Definition) : List Definition :=
  (definitions.foldl
    (fun (kept, seen) d =>
      if seen.contains d.oid.text then (kept, seen) else (d :: kept, seen.insert d.oid.text))
    (([] : List Definition), (∅ : TextSet))).1.reverse

/-- The identifier that each key belongs to. A key belongs to the first definition that has it. -/
def owners (definitions : List Definition) : Std.ExtTreeMap String String :=
  (distinct definitions).foldl
    (fun owners d =>
      d.spellings.foldl (fun owners name => owners.insertIfNew (nameKey name) d.oid.text) owners)
    ∅

/-- All superior references of the definitions, in order. -/
def references (definitions : List Definition) : List Reference :=
  let owners := owners definitions
  definitions.flatMap fun d =>
    d.superiors.map fun superior => ⟨d.oid.text, superior, owners[nameKey superior]?⟩

/-- The superiors with one more edge, unless it is there already. -/
def addEdge (superiors : Std.ExtTreeMap String (List String)) (oid target : String) :
    Std.ExtTreeMap String (List String) :=
  superiors.alter oid fun targets =>
    let targets := targets.getD []
    some (if targets.contains target then targets else targets ++ [target])

/-- The graph of the definitions. -/
def ofDefinitions (definitions : List Definition) : Hierarchy :=
  let kept := distinct definitions
  let references := references definitions
  { nodes := kept.map fun d => d.oid.text
    labels := kept.foldl (fun labels d => labels.insert d.oid.text d.name) ∅
    superiors := references.foldl
      (fun superiors reference =>
        match reference.target with
        | some target => addEdge superiors reference.oid target
        | none => superiors)
      (kept.foldl (fun superiors d => superiors.insert d.oid.text []) ∅)
    unresolved := references.filterMap fun reference =>
      match reference.target with
      | some _ => none
      | none => some (reference.oid, reference.superior) }

/-- The graph of everything in a registry. -/
def ofRegistry (registry : Registry) : Hierarchy :=
  ofDefinitions registry.store.toList

/-- Texts in order. -/
def sorted (texts : List String) : List String :=
  texts.mergeSort fun a b => (compare a b).isLE

/-- The edges out of a node, in the order in which they were added. -/
def edgesOf (hierarchy : Hierarchy) (oid : String) : List String :=
  hierarchy.superiors.getD oid []

/-- All edges in order, each from a definition to a superior. -/
def edges (hierarchy : Hierarchy) : List (String × String) :=
  hierarchy.superiors.toList.flatMap fun (oid, targets) =>
    (sorted targets).map fun target => (oid, target)

/-- The number of definitions. -/
def nodeCount (hierarchy : Hierarchy) : Nat := hierarchy.nodes.length

/-- The number of edges. -/
def edgeCount (hierarchy : Hierarchy) : Nat := hierarchy.edges.length

/-- The direct superiors of a definition, in order. -/
def superiorsOf (hierarchy : Hierarchy) (oid : String) : List String :=
  sorted (hierarchy.edgesOf oid)

/-- The definitions that name a definition as superior, in order. -/
def subtypesOf (hierarchy : Hierarchy) (oid : String) : List String :=
  (hierarchy.superiors.toList.filter fun (_, targets) => targets.contains oid).map (·.1)

/-- The definitions in order. -/
def sortedNodes (hierarchy : Hierarchy) : List String := sorted hierarchy.nodes

/-- The definitions without a superior, in order. -/
def roots (hierarchy : Hierarchy) : List String :=
  hierarchy.sortedNodes.filter fun oid => (hierarchy.edgesOf oid).isEmpty

/-- Whether the definitions of a component inherit from each other. A definition on its own does if it is
its own superior. -/
def isCyclic (hierarchy : Hierarchy) (component : List String) : Bool :=
  1 < component.length || component.head?.any fun oid => (hierarchy.edgesOf oid).contains oid

/-- The groups of definitions that inherit from each other, in order. A definition that inherits
from itself alone is a group. -/
def cycles (hierarchy : Hierarchy) : List (List String) :=
  let groups := (components hierarchy.superiors id hierarchy.nodes).filter hierarchy.isCyclic
  (groups.map sorted).mergeSort fun a b => (compare a b).isLE

/-- A shortest walk from a definition along superiors back to it, through its group. Of the walks of that
length the one is taken whose first difference from another is the superior added later. -/
def loopThrough (hierarchy : Hierarchy) (oid : String) (group : List String) : List String :=
  loopWithin hierarchy.superiors id (Std.ExtTreeSet.ofList group) oid

/-- Refuses a graph with a group of definitions that inherit from each other. The least definition of the
first group is reported, with a shortest way back to it. -/
def ensureAcyclic (hierarchy : Hierarchy) : Except Error Unit :=
  match hierarchy.cycles with
  | [] => .ok ()
  | group :: _ =>
    let oid := group.headD ""
    .error (.cyclicHierarchy oid (hierarchy.loopThrough oid group))

/-- The definitions, each after all its superiors. -/
def superiorsFirst (hierarchy : Hierarchy) : Except Error (List String) := do
  hierarchy.ensureAcyclic
  match topologicalOrder hierarchy.superiors id hierarchy.nodes with
  | .ok order => .ok order.reverse
  | .error oid => .error (.cyclicHierarchy oid [oid])

end Hierarchy

end Subschema
