import Subschema.Hierarchy

namespace Subschema.Hierarchy

/-- The lines before the first node. -/
def dotHeader : List String :=
  ["digraph SchemaHierarchy \x7b",
    "  rankdir=BT;",
    "  bgcolor=\"#1e1e1e\";",
    "  node [shape=box, style=\"filled,rounded\", fontname=\"Helvetica\", fontsize=10, " ++
      "fontcolor=\"white\", color=\"#404040\", fillcolor=\"#00BCD4\"];",
    "  edge [color=\"#808080\"];",
    ""]

/-- The colour of a node, which tells roots from the rest. -/
def dotColour (root : Bool) : String := if root then "#607D8B" else "#00BCD4"

/-- The line of a node. -/
def dotNode (oid label : String) (root : Bool) : String :=
  "  \"" ++ oid ++ "\" [label=\"" ++ label ++ "\\n" ++ oid ++ "\", fillcolor=\"" ++
    dotColour root ++ "\"];"

/-- The line of an edge. -/
def dotEdge (oid superior : String) : String :=
  "  \"" ++ oid ++ "\" -> \"" ++ superior ++ "\";"

/-- The lines of nodes and the lines of edges, a blank line between them. -/
def dotLines (nodes edges : List String) : List String :=
  dotHeader ++ nodes ++ "" :: edges ++ ["\x7d"]

/-- The graph in DOT: a line for each node, then a line for each edge, both in order. -/
def toDot (hierarchy : Hierarchy) : String :=
  let nodes := hierarchy.sortedNodes.map fun oid =>
    dotNode oid (hierarchy.labels.getD oid oid) (hierarchy.edgesOf oid).isEmpty
  let edges := hierarchy.edges.map fun (oid, superior) => dotEdge oid superior
  String.join ((dotLines nodes edges).map fun line => line ++ "\n")

end Subschema.Hierarchy
