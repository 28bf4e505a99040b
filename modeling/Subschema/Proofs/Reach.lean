import Mathlib.Logic.Relation
import Subschema.Reach

namespace Subschema

open Relation

variable {α : Type}

/-- A node leads to every place that it lists, whether that is a node or not. -/
def Leads (graph : Std.ExtTreeMap String α) (next : α → List String) (node place : String) : Prop :=
  ∃ a, graph[node]? = some a ∧ place ∈ next a

theorem mem_of_getElem? {graph : Std.ExtTreeMap String α} {node : String} {a : α}
    (stored : graph[node]? = some a) : node ∈ graph := by
  rw [Std.ExtTreeMap.mem_iff_isSome_getElem?, stored]
  rfl

theorem not_mem_of_getElem? {graph : Std.ExtTreeMap String α} {node : String}
    (absent : graph[node]? = none) : node ∉ graph := by
  simp [Std.ExtTreeMap.mem_iff_isSome_getElem?, absent]

/-- An edge starts at a node. So every place of a chain but the last is one. -/
theorem Leads.mem {graph : Std.ExtTreeMap String α} {next : α → List String} {node place : String}
    (edge : Leads graph next node place) : node ∈ graph := by
  obtain ⟨a, stored, _⟩ := edge
  exact mem_of_getElem? stored

theorem TextSet.mem_insert_iff {set : TextSet} {text other : String} :
    other ∈ set.insert text ↔ text = other ∨ other ∈ set := by
  rw [Std.ExtTreeSet.mem_insert, Std.LawfulEqCmp.compare_eq_iff_eq]

theorem TextSet.mem_singleton_iff {text other : String} :
    other ∈ ({text} : TextSet) ↔ other = text := by
  rw [Std.ExtTreeSet.singleton_eq_insert, TextSet.mem_insert_iff, eq_comm (a := text)]
  simp

theorem TextSet.toList_nodup (set : TextSet) : set.toList.Nodup := by
  refine set.distinct_toList.imp fun {first second} distinct same => ?_
  simp [same] at distinct

theorem TextSet.toList_sorted (set : TextSet) : set.toList.Pairwise (· < ·) :=
  set.ordered_toList.imp fun less => compareOfLessAndEq_eq_lt.1 less

/-- Every edge out of what has been seen ends in what has been seen or is on the list. All searches
here keep this up, which is why what they end with is closed. -/
def Bordered (edge : String → String → Prop) (seen : TextSet) (todo : List String) : Prop :=
  ∀ node ∈ seen, ∀ place, edge node place → place ∈ seen ∨ place ∈ todo

theorem Bordered.empty (edge : String → String → Prop) (todo : List String) :
    Bordered edge ∅ todo := by
  intro node member
  simp at member

/-- The first place on the list may be passed over if it is known or no edge leads to it. -/
theorem Bordered.skip {edge : String → String → Prop} {seen : TextSet} {first : String}
    {rest : List String} (border : Bordered edge seen (first :: rest))
    (idle : first ∈ seen ∨ ∀ node, ¬ edge node first) : Bordered edge seen rest := by
  intro node member place step
  rcases border node member place step with known | queued
  · exact Or.inl known
  · rcases List.mem_cons.1 queued with rfl | later
    · exact Or.inl (idle.resolve_right fun never => never node step)
    · exact Or.inr later

/-- The first place on the list may be seen once its own edges are put on the list. -/
theorem Bordered.see {edge : String → String → Prop} {seen : TextSet} {first : String}
    {more rest : List String} (border : Bordered edge seen (first :: rest))
    (outward : ∀ place, edge first place → place ∈ more) :
    Bordered edge (seen.insert first) (more ++ rest) := by
  intro node member place step
  rcases TextSet.mem_insert_iff.1 member with rfl | before
  · exact Or.inr (List.mem_append_left _ (outward place step))
  · rcases border node before place step with known | queued
    · exact Or.inl (TextSet.mem_insert_iff.2 (Or.inr known))
    · rcases List.mem_cons.1 queued with rfl | later
      · exact Or.inl Std.ExtTreeSet.mem_insert_self
      · exact Or.inr (List.mem_append_right _ later)

/-- A search never forgets what it has seen. -/
theorem mem_explore_of_mem_seen {graph : Std.ExtTreeMap String α} {next : α → List String}
    {seen : TextSet} {todo : List String} {node : String} (known : node ∈ seen) :
    node ∈ explore graph next seen todo := by
  fun_induction explore graph next seen todo with
  | case1 => exact known
  | case2 _ _ _ _ ih => exact ih known
  | case3 _ _ _ _ _ _ ih => exact ih known
  | case4 _ _ _ _ _ _ ih => exact ih (TextSet.mem_insert_iff.2 (Or.inr known))

theorem mem_explore_of_mem_todo {graph : Std.ExtTreeMap String α} {next : α → List String}
    {seen : TextSet} {todo : List String} {node : String} (queued : node ∈ todo)
    (stored : node ∈ graph) : node ∈ explore graph next seen todo := by
  fun_induction explore graph next seen todo with
  | case1 => simp at queued
  | case2 seen first rest absent ih =>
    rcases List.mem_cons.1 queued with rfl | later
    · exact absurd stored (not_mem_of_getElem? absent)
    · exact ih later
  | case3 seen first rest a found known ih =>
    rcases List.mem_cons.1 queued with rfl | later
    · exact mem_explore_of_mem_seen (Std.ExtTreeSet.mem_iff_contains.2 known)
    · exact ih later
  | case4 seen first rest a found fresh ih =>
    rcases List.mem_cons.1 queued with rfl | later
    · exact mem_explore_of_mem_seen Std.ExtTreeSet.mem_insert_self
    · exact ih (List.mem_append_right _ later)

/-- Whatever a search adds to what it has seen is a node at the end of a chain from its list. -/
theorem explore_sound {graph : Std.ExtTreeMap String α} {next : α → List String}
    {seen : TextSet} {todo : List String} {node : String}
    (member : node ∈ explore graph next seen todo) :
    node ∈ seen ∨ node ∈ graph ∧ ∃ first ∈ todo, ReflTransGen (Leads graph next) first node := by
  fun_induction explore graph next seen todo with
  | case1 => exact Or.inl member
  | case2 seen first rest absent ih =>
    rcases ih member with known | ⟨stored, start, queued, chain⟩
    · exact Or.inl known
    · exact Or.inr ⟨stored, start, List.mem_cons_of_mem _ queued, chain⟩
  | case3 seen first rest a found known ih =>
    rcases ih member with known | ⟨stored, start, queued, chain⟩
    · exact Or.inl known
    · exact Or.inr ⟨stored, start, List.mem_cons_of_mem _ queued, chain⟩
  | case4 seen first rest a found fresh ih =>
    rcases ih member with known | ⟨stored, start, queued, chain⟩
    · rcases TextSet.mem_insert_iff.1 known with rfl | known
      · exact Or.inr ⟨mem_of_getElem? found, first, List.mem_cons_self, .refl⟩
      · exact Or.inl known
    · rcases List.mem_append.1 queued with listed | later
      · exact Or.inr ⟨stored, first, List.mem_cons_self, .head ⟨a, found, listed⟩ chain⟩
      · exact Or.inr ⟨stored, start, List.mem_cons_of_mem _ later, chain⟩

/-- What a search ends with leads to no node outside of it. -/
theorem explore_closed {graph : Std.ExtTreeMap String α} {next : α → List String}
    {seen : TextSet} {todo : List String}
    (border : Bordered (fun node place => Leads graph next node place ∧ place ∈ graph) seen todo)
    {node place : String} (member : node ∈ explore graph next seen todo)
    (edge : Leads graph next node place) (stored : place ∈ graph) :
    place ∈ explore graph next seen todo := by
  fun_induction explore graph next seen todo with
  | case1 => simpa using border node member place ⟨edge, stored⟩
  | case2 seen first rest absent ih =>
    exact ih (border.skip (Or.inr fun _ step => not_mem_of_getElem? absent step.2)) member
  | case3 seen first rest a found known ih =>
    exact ih (border.skip (Or.inl (Std.ExtTreeSet.mem_iff_contains.2 known))) member
  | case4 seen first rest a found fresh ih =>
    refine ih (border.see fun other step => ?_) member
    obtain ⟨⟨b, again, listed⟩, _⟩ := step
    cases Option.some.inj (found.symm.trans again)
    exact listed

/-- A search from nothing seen finds exactly the nodes at the end of chains from its list. -/
theorem mem_reached {graph : Std.ExtTreeMap String α} {next : α → List String}
    {start : List String} {node : String} :
    node ∈ reached graph next start ↔
      node ∈ graph ∧ ∃ first ∈ start, ReflTransGen (Leads graph next) first node := by
  constructor
  · intro member
    exact (explore_sound member).resolve_left (by simp)
  · rintro ⟨stored, first, queued, chain⟩
    have covers : ∀ place, ReflTransGen (Leads graph next) first place → place ∈ graph →
        place ∈ reached graph next start := by
      intro place chain
      induction chain with
      | refl => exact mem_explore_of_mem_todo queued
      | tail _ edge ih => exact explore_closed (.empty _ _) (ih edge.mem) edge
    exact covers node chain stored

/-- A chase that finds nothing has been through a set of places that no edge leaves and that the
target is not in. -/
theorem chase_exhausts {graph : Std.ExtTreeMap String α} {next : α → List String}
    {target : String} {seen : TextSet} {todo : List Trail}
    (border : Bordered (Leads graph next) seen (todo.map Trail.place)) (missed : target ∉ seen)
    (fails : chase graph next target seen todo = none) :
    ∃ visited : String → Prop, (∀ node ∈ seen, visited node) ∧
      (∀ trail ∈ todo, visited trail.place) ∧ ¬ visited target ∧
      ∀ node place, visited node → Leads graph next node place → visited place := by
  fun_induction chase graph next target seen todo with
  | case1 seen =>
    exact ⟨(· ∈ seen), fun _ known => known, by simp, missed,
      fun node place known edge => by simpa using border node known place edge⟩
  | case2 => simp at fails
  | case3 seen trail rest other known ih =>
    have known := Std.ExtTreeSet.mem_iff_contains.2 known
    obtain ⟨visited, old, queue, avoids, closed⟩ := ih (border.skip (Or.inl known)) missed fails
    exact ⟨visited, old, List.forall_mem_cons.2 ⟨old _ known, queue⟩, avoids, closed⟩
  | case4 seen trail rest other fresh absent ih =>
    have idle : ∀ place, Leads graph next trail.place place → place ∈ [] := by
      rintro place ⟨a, stored, _⟩
      simp [absent] at stored
    obtain ⟨visited, old, queue, avoids, closed⟩ :=
      ih (border.see idle) (by simp [missed, other]) fails
    exact ⟨visited, fun node before => old node (TextSet.mem_insert_iff.2 (Or.inr before)),
      List.forall_mem_cons.2 ⟨old _ Std.ExtTreeSet.mem_insert_self, queue⟩, avoids, closed⟩
  | case5 seen trail rest other fresh a stored ih =>
    have outward : ∀ place, Leads graph next trail.place place →
        place ∈ ((next a).reverse.map (⟨·, trail.place :: trail.before⟩ : String → Trail)).map
          Trail.place := by
      rintro place ⟨b, again, listed⟩
      cases Option.some.inj (stored.symm.trans again)
      simpa using listed
    obtain ⟨visited, old, queue, avoids, closed⟩ :=
      ih (by simpa only [List.map_append] using border.see outward)
        (by simp [missed, other]) fails
    exact ⟨visited, fun node before => old node (TextSet.mem_insert_iff.2 (Or.inr before)),
      List.forall_mem_cons.2 ⟨old _ Std.ExtTreeSet.mem_insert_self,
        fun one later => queue one (List.mem_append_right _ later)⟩, avoids, closed⟩

/-- What a chase comes upon is the end of a chain from its list. -/
theorem chase_sound {graph : Std.ExtTreeMap String α} {next : α → List String} {target : String}
    {seen : TextSet} {todo : List Trail} {found : Trail}
    (finds : chase graph next target seen todo = some found) :
    ∃ trail ∈ todo, ReflTransGen (Leads graph next) trail.place target := by
  fun_induction chase graph next target seen todo with
  | case1 => simp at finds
  | case2 seen trail rest here => exact ⟨trail, List.mem_cons_self, by rw [here]⟩
  | case3 seen trail rest other known ih =>
    obtain ⟨start, later, chain⟩ := ih finds
    exact ⟨start, List.mem_cons_of_mem _ later, chain⟩
  | case4 seen trail rest other fresh absent ih =>
    obtain ⟨start, later, chain⟩ := ih finds
    exact ⟨start, List.mem_cons_of_mem _ later, chain⟩
  | case5 seen trail rest other fresh a stored ih =>
    obtain ⟨start, queued, chain⟩ := ih finds
    rcases List.mem_append.1 queued with onward | later
    · obtain ⟨place, listed, rfl⟩ := List.mem_map.1 onward
      exact ⟨trail, List.mem_cons_self, .head ⟨a, stored, List.mem_reverse.1 listed⟩ chain⟩
    · exact ⟨start, List.mem_cons_of_mem _ later, chain⟩

/-- No walk is found exactly where no chain leads from the start to the target. -/
theorem walkTo?_eq_none_iff {graph : Std.ExtTreeMap String α} {next : α → List String}
    {target : String} {start : List String} :
    walkTo? graph next target start = none ↔
      ∀ first ∈ start, ¬ ReflTransGen (Leads graph next) first target := by
  rw [walkTo?, Option.map_eq_none_iff]
  constructor
  · intro fails first member chain
    obtain ⟨visited, _, queue, avoids, closed⟩ := chase_exhausts (.empty _ _) (by simp) fails
    have visits : ∀ place, ReflTransGen (Leads graph next) first place → visited place := by
      intro place chain
      induction chain with
      | refl => exact queue ⟨first, []⟩ (by simpa using member)
      | tail _ edge ih => exact closed _ _ ih edge
    exact avoids (visits target chain)
  · intro apart
    rw [Option.eq_none_iff_forall_ne_some]
    intro found finds
    obtain ⟨trail, queued, chain⟩ := chase_sound finds
    obtain ⟨first, member, rfl⟩ := List.mem_map.1 queued
    exact apart first (List.mem_reverse.1 member) chain

end Subschema
