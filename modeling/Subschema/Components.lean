import Subschema.Reach

namespace Subschema

variable {α : Type}

/-- The graph with its edges turned around: each node holds the nodes that lead to it. -/
def reversed (graph : Std.ExtTreeMap String α) (next : α → List String) :
    Std.ExtTreeMap String (List String) :=
  graph.map fun place _ => (graph.toList.filter fun (_, a) => (next a).contains place).map (·.1)

/-- For each leader that has not been seen, what is seen from there for the first time. -/
def collect (graph : Std.ExtTreeMap String α) (next : α → List String) (seen : TextSet) :
    List String → List (List String)
  | [] => []
  | leader :: rest =>
    if seen.contains leader then collect graph next seen rest
    else
      let found := explore graph next seen [leader]
      (found \ seen).toList :: collect graph next found rest

/-- The strongly connected components, by two depth-first searches: one in the graph with its edges
turned around, and one in the graph that starts at the nodes that the first has left last. The nodes
may be given in any order, each at least once. -/
def components (graph : Std.ExtTreeMap String α) (next : α → List String) (nodes : List String) :
    List (List String) :=
  collect graph next ∅ (bottomUp (reversed graph next) id nodes).reverse

/-- The nodes, each before all nodes that it leads to. The search in the graph gives the order, and
the one in the graph turned around checks it. Where the graph has a loop, a node on one is reported:
one that leads to itself, or one of a component of more than one. -/
def topologicalOrder (graph : Std.ExtTreeMap String α) (next : α → List String)
    (nodes : List String) : Except String (List String) :=
  let order := (bottomUp graph next nodes).reverse
  match order.find? fun node => (graph[node]?.elim [] next).contains node with
  | some node => .error node
  | none =>
    match (collect (reversed graph next) id ∅ order).find? fun component => 1 < component.length with
    | some component => .error (component.headD "")
    | none => .ok order

end Subschema
