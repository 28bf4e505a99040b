import Std.Data.ExtTreeMap
import Std.Data.ExtTreeSet

namespace Subschema

/-- A finite set of texts. -/
abbrev TextSet := Std.ExtTreeSet String

variable {α : Type}

/-- The number of nodes that have not been seen. -/
def unseen (graph : Std.ExtTreeMap String α) (seen : TextSet) : Nat :=
  graph.keys.countP fun node => !seen.contains node

/-- A stronger test that fails somewhere the weaker one holds counts less. -/
theorem countP_lt_countP {β : Type} {p q : β → Bool} {l : List β} {x : β} (member : x ∈ l)
    (stronger : ∀ y, q y = true → p y = true) (holds : p x = true) (fails : q x = false) :
    l.countP q < l.countP p := by
  induction l with
  | nil => simp at member
  | cons y l ih =>
    have rest : l.countP q ≤ l.countP p := List.countP_mono_left fun z _ => stronger z
    rcases List.mem_cons.1 member with rfl | member
    · rw [List.countP_cons_of_pos holds, List.countP_cons_of_neg (by simp [fails])]
      omega
    · have less := ih member
      by_cases h : q y = true
      · rw [List.countP_cons_of_pos h, List.countP_cons_of_pos (stronger y h)]
        omega
      · rw [List.countP_cons_of_neg h]
        exact Nat.lt_of_lt_of_le less (by rw [List.countP_cons]; omega)

/-- A node not seen after seeing one more was not seen before. -/
theorem contains_of_contains_insert {seen : TextSet} {node other : String}
    (fresh : (!(seen.insert node).contains other) = true) : (!seen.contains other) = true := by
  rw [Std.ExtTreeSet.contains_insert] at fresh
  simp_all

/-- Seeing a new node leaves fewer nodes to see. -/
theorem unseen_insert_lt {graph : Std.ExtTreeMap String α} {seen : TextSet} {node : String}
    {a : α} (stored : graph[node]? = some a) (fresh : seen.contains node = false) :
    unseen graph (seen.insert node) < unseen graph seen := by
  refine countP_lt_countP (x := node) ?_ (fun _ => contains_of_contains_insert) ?_ ?_
  · rw [Std.ExtTreeMap.mem_keys, Std.ExtTreeMap.mem_iff_isSome_getElem?, stored]
    rfl
  · simp only [fresh, Bool.not_false]
  · simp

/-- Seeing anything leaves no more nodes to see. -/
theorem unseen_insert_le (graph : Std.ExtTreeMap String α) (seen : TextSet) (node : String) :
    unseen graph (seen.insert node) ≤ unseen graph seen :=
  List.countP_mono_left fun _ _ => contains_of_contains_insert

/-- What the search has seen once it has followed everything on the list. Only the keys of the graph
are nodes; edges to anything else lead nowhere. The search ends because the nodes not yet seen run
out. -/
def explore (graph : Std.ExtTreeMap String α) (next : α → List String) (seen : TextSet) :
    List String → TextSet
  | [] => seen
  | node :: rest =>
    match _stored : graph[node]? with
    | none => explore graph next seen rest
    | some a =>
      if _old : seen.contains node = true then explore graph next seen rest
      else explore graph next (seen.insert node) (next a ++ rest)
termination_by todo => (unseen graph seen, todo.length)
decreasing_by
  · exact Prod.Lex.right _ (by simp)
  · exact Prod.Lex.right _ (by simp)
  · exact Prod.Lex.left _ _ (unseen_insert_lt _stored (Bool.eq_false_iff.2 _old))

/-- The nodes that are on the list or reached from there. -/
def reached (graph : Std.ExtTreeMap String α) (next : α → List String) (start : List String) :
    TextSet :=
  explore graph next ∅ start

/-- A place that a search has come to, and the places before it, nearest first. -/
structure Trail where
  place : String
  before : List String

/-- The places of a trail in the order of the walk. -/
def Trail.toList (trail : Trail) : List String :=
  (trail.place :: trail.before).reverse

/-- Depth-first search for a target, which need not be a node. Of the edges of a node the last one
is followed first. -/
def chase (graph : Std.ExtTreeMap String α) (next : α → List String) (target : String)
    (seen : TextSet) : List Trail → Option Trail
  | [] => none
  | trail :: rest =>
    if trail.place = target then some trail
    else if _old : seen.contains trail.place = true then chase graph next target seen rest
    else
      match _stored : graph[trail.place]? with
      | none => chase graph next target (seen.insert trail.place) rest
      | some a =>
        chase graph next target (seen.insert trail.place)
          ((next a).reverse.map (⟨·, trail.place :: trail.before⟩) ++ rest)
termination_by todo => (unseen graph seen, todo.length)
decreasing_by
  · exact Prod.Lex.right _ (by simp)
  · rcases Nat.lt_or_eq_of_le (unseen_insert_le graph seen trail.place) with h | h
    · exact Prod.Lex.left _ _ h
    · rw [h]
      exact Prod.Lex.right _ (by simp)
  · exact Prod.Lex.left _ _ (unseen_insert_lt _stored (Bool.eq_false_iff.2 _old))

/-- A walk from one of the given places to the target, if there is one. -/
def walkTo? (graph : Std.ExtTreeMap String α) (next : α → List String) (target : String)
    (start : List String) : Option (List String) :=
  (chase graph next target ∅ (start.reverse.map (⟨·, []⟩))).map Trail.toList

/-- Entering a node, or leaving it once everything that it leads to has been left. -/
inductive Visit where
  | enter (node : String)
  | leave (node : String)

/-- The nodes in the order in which a depth-first search leaves them. -/
def leaving (graph : Std.ExtTreeMap String α) (next : α → List String) (seen : TextSet) :
    List Visit → List String
  | [] => []
  | .leave node :: rest => node :: leaving graph next seen rest
  | .enter node :: rest =>
    match _stored : graph[node]? with
    | none => leaving graph next seen rest
    | some a =>
      if _old : seen.contains node = true then leaving graph next seen rest
      else
        leaving graph next (seen.insert node) ((next a).map .enter ++ .leave node :: rest)
termination_by todo => (unseen graph seen, todo.length)
decreasing_by
  · exact Prod.Lex.right _ (by simp)
  · exact Prod.Lex.right _ (by simp)
  · exact Prod.Lex.right _ (by simp)
  · exact Prod.Lex.left _ _ (unseen_insert_lt _stored (Bool.eq_false_iff.2 _old))

/-- The nodes, each after all that it leads to where there is no loop. -/
def bottomUp (graph : Std.ExtTreeMap String α) (next : α → List String) (start : List String) :
    List String :=
  leaving graph next ∅ (start.map .enter)

end Subschema
