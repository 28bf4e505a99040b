import Mathlib.Data.List.Perm.Subperm
import Subschema.Components
import Subschema.Proofs.Leaving

namespace Subschema

open Relation

variable {α : Type} {graph : Std.ExtTreeMap String α} {next : α → List String}

theorem mem_reversed {node : String} : node ∈ reversed graph next ↔ node ∈ graph :=
  Std.ExtTreeMap.mem_map

/-- The edges of the reversed graph are the edges between nodes, turned around. -/
theorem leads_reversed {node place : String} :
    Leads (reversed graph next) id place node ↔ place ∈ graph ∧ Leads graph next node place := by
  unfold Leads reversed
  rw [Std.ExtTreeMap.getElem?_map, Std.ExtTreeMap.mem_iff_isSome_getElem?]
  cases graph[place]? with
  | none => simp
  | some a => simp [Std.ExtTreeMap.mem_toList_iff_getElem?_eq_some]

/-- Only nodes lead anywhere. -/
theorem mem_of_chain {node place : String} (chain : ReflTransGen (Leads graph next) node place)
    (stored : place ∈ graph) : node ∈ graph := by
  rcases chain.cases_head with same | ⟨_, edge, _⟩
  · rwa [same]
  · exact edge.mem

/-- Two places that lead to each other, or one place twice. -/
structure Entwined (graph : Std.ExtTreeMap String α) (next : α → List String) (one two : String) :
    Prop where
  there : ReflTransGen (Leads graph next) one two
  back : ReflTransGen (Leads graph next) two one

namespace Entwined

theorem refl (node : String) : Entwined graph next node node := ⟨.refl, .refl⟩

theorem symm {one two : String} (entwined : Entwined graph next one two) :
    Entwined graph next two one :=
  ⟨entwined.back, entwined.there⟩

theorem trans {one two three : String} (first : Entwined graph next one two)
    (second : Entwined graph next two three) : Entwined graph next one three :=
  ⟨first.there.trans second.there, second.back.trans first.back⟩

/-- Two different places that lead to each other lie on a loop. -/
theorem transGen {one two : String} (entwined : Entwined graph next one two) (differ : two ≠ one) :
    TransGen (Leads graph next) one one := by
  have there := (reflTransGen_iff_eq_or_transGen.1 entwined.there).resolve_left differ
  exact there.trans_left entwined.back

end Entwined

/-- Of a list of more than one without repetition not all members are the same. -/
theorem exists_ne_of_long {items : List String} (apart : items.Nodup) (long : 1 < items.length)
    (one : String) : ∃ other ∈ items, other ≠ one := by
  by_contra none
  push Not at none
  have within : items ⊆ [one] := fun other member => List.mem_singleton.2 (none other member)
  have few := (List.subperm_of_subset apart within).length_le
  exact absurd long (Nat.not_lt.2 few)

/-- The members of a component of more than one lie on loops. -/
theorem transGen_of_long {component : List String} {leader node : String} (apart : component.Nodup)
    (means : ∀ other, other ∈ component ↔ Entwined graph next leader other)
    (long : 1 < component.length) (member : node ∈ component) : TransGen (Leads graph next) node node := by
  obtain ⟨other, among, differ⟩ := exists_ne_of_long apart long node
  exact (((means node).1 member).symm.trans ((means other).1 among)).transGen differ

/-- A loop leads back at once, or the component of its start has two members. -/
theorem leads_self_or_long {component : List String} {node : String}
    (means : ∀ other, other ∈ component ↔ Entwined graph next node other)
    (loop : TransGen (Leads graph next) node node) :
    Leads graph next node node ∨ 1 < component.length := by
  obtain ⟨second, edge, back⟩ := TransGen.head'_iff.1 loop
  by_cases same : second = node
  · exact Or.inl (same ▸ edge)
  · have two : [node, second] ⊆ component := by
      simp [(means node).2 (.refl node), (means second).2 ⟨.single edge, back⟩]
    exact Or.inr (List.subperm_of_subset (by simp [Ne.symm same]) two).length_le

/-- An order of the nodes in which an edge that leads onward is one to a place that leads back, as does
everything on the way. -/
structure Graded (graph : Std.ExtTreeMap String α) (next : α → List String) (order : List String) :
    Prop where
  nodup : order.Nodup
  covers : ∀ node, node ∈ order ↔ node ∈ graph
  back : ∀ {before between rest : List String} {node place : String},
    order = before ++ node :: (between ++ place :: rest) → Leads graph next node place →
      ∀ other ∈ between ++ [place], ReflTransGen (Leads graph next) other node

/-- The nodes are graded when those come first that a search of the graph with its edges turned around has
left last. -/
theorem graded_bottomUp {β : Type} {turned : Std.ExtTreeMap String β} {back : β → List String}
    (same : ∀ node, node ∈ turned ↔ node ∈ graph)
    (turns : ∀ node place, Leads turned back place node ↔ place ∈ graph ∧ Leads graph next node place)
    {nodes : List String} (covers : ∀ node ∈ graph, node ∈ nodes) :
    Graded graph next (bottomUp turned back nodes).reverse := by
  have left : ∀ node, node ∈ bottomUp turned back nodes ↔ node ∈ graph := fun node =>
    (mem_bottomUp fun node stored => covers node ((same node).1 stored)).trans (same node)
  refine ⟨(List.reverse_perm _).nodup_iff.2 (bottomUp_nodup nodes), fun node => ?_, ?_⟩
  · rw [List.mem_reverse, left]
  · intro before between rest node place split edge other member
    have split := congrArg List.reverse split
    simp only [List.reverse_reverse, List.reverse_append, List.reverse_cons, List.append_assoc,
      List.singleton_append] at split
    have inside : place ∈ graph := (left place).1 (by simp [split])
    have member : other ∈ place :: between.reverse := by simpa [or_comm] using member
    have chain := above_of_bottomUp split ((turns node place).2 ⟨inside, edge⟩) other member
    have turned := TransGen.mono (fun _ _ edge => ((turns _ _).1 edge).2) _ _ chain
    exact (transGen_swap.1 turned).to_reflTransGen

/-- The two searches for the components. -/
theorem graded_reversed {nodes : List String} (covers : ∀ node ∈ graph, node ∈ nodes) :
    Graded graph next (bottomUp (reversed graph next) id nodes).reverse :=
  graded_bottomUp (fun _ => mem_reversed) (fun _ _ => leads_reversed) covers

/-- The two searches for a topological order. -/
theorem graded_forward (inside : ∀ node place, Leads graph next node place → place ∈ graph)
    {nodes : List String} (covers : ∀ node ∈ graph, node ∈ nodes) :
    Graded (reversed graph next) id (bottomUp graph next nodes).reverse := by
  refine graded_bottomUp (fun _ => mem_reversed.symm) (fun node place => ?_)
    fun node stored => covers node (mem_reversed.1 stored)
  rw [mem_reversed, leads_reversed]
  exact ⟨fun edge => ⟨edge.mem, inside _ _ edge, edge⟩, fun ⟨_, _, edge⟩ => edge⟩

/-- What a search has seen when no edge leads out of it. -/
def Closed (graph : Std.ExtTreeMap String α) (next : α → List String) (seen : TextSet) : Prop :=
  ∀ node ∈ seen, ∀ place, Leads graph next node place → place ∈ graph → place ∈ seen

/-- No chain leads out of closed ground. -/
theorem Closed.chain {seen : TextSet} (closed : Closed graph next seen) {node place : String}
    (known : node ∈ seen) (chain : ReflTransGen (Leads graph next) node place)
    (stored : place ∈ graph) : place ∈ seen := by
  induction chain with
  | refl => exact known
  | tail _ edge ih => exact closed _ (ih edge.mem) _ edge stored

/-- A search that goes on from closed ground. -/
theorem Closed.explore {seen : TextSet} (closed : Closed graph next seen) (leader : String) :
    Closed graph next (explore graph next seen [leader]) := by
  intro node member place edge stored
  refine explore_closed (fun node known place step => ?_) member edge stored
  exact Or.inl (closed node known place step.1 step.2)

/-- A search that goes on from closed ground finds what its leader leads to, and nothing else that
is new. -/
theorem Closed.mem_explore_iff {seen : TextSet} (closed : Closed graph next seen)
    {leader place : String} : place ∈ Subschema.explore graph next seen [leader] ↔
      place ∈ seen ∨ place ∈ graph ∧ ReflTransGen (Leads graph next) leader place := by
  constructor
  · intro member
    simpa using explore_sound member
  · rintro (known | ⟨stored, chain⟩)
    · exact mem_explore_of_mem_seen known
    · have entered : leader ∈ Subschema.explore graph next seen [leader] :=
        mem_explore_of_mem_todo (List.mem_singleton_self leader) (mem_of_chain chain stored)
      exact (closed.explore leader).chain entered chain stored

/-- Of two places in a list, the second comes after the first, or nothing comes before it that does not
come before the first. -/
theorem split_cases {β : Type} {items before after front back : List β} {one two : β}
    (first : items = before ++ one :: after) (second : items = front ++ two :: back) :
    (∃ between, front = before ++ one :: between) ∨ front ++ [two] ⊆ before ++ [one] := by
  rcases List.append_eq_append_iff.1 (first.symm.trans second) with
    ⟨between, rfl, ends⟩ | ⟨between, rfl, ends⟩
  · cases between with
    | nil =>
      obtain ⟨rfl, _⟩ := List.cons.inj ends
      simp
    | cons head between =>
      obtain ⟨rfl, _⟩ := List.cons.inj (ends.trans List.cons_append)
      exact Or.inl ⟨between, rfl⟩
  · have inside : two ∈ between ++ [one] := by
      cases between with
      | nil => simp [(List.cons.inj ends).1]
      | cons head between => simp [(List.cons.inj (ends.trans List.cons_append)).1]
    rw [List.append_assoc]
    exact Or.inr (List.append_subset.2
      ⟨List.subset_append_left _ _, fun _ last => by simp [List.mem_singleton.1 last, inside]⟩)

/-- How far the second search has come: all leaders that have been passed have been seen, and no edge leads
out of what has been seen. -/
structure Swept (graph : Std.ExtTreeMap String α) (next : α → List String) (seen : TextSet)
    (done : List String) : Prop where
  closed : Closed graph next seen
  passed : ∀ node ∈ done, node ∈ seen

namespace Swept

theorem start : Swept graph next ∅ [] :=
  ⟨fun node member => by simp at member, by simp⟩

variable {seen : TextSet} {done : List String} {leader : String}

theorem skip (swept : Swept graph next seen done) (known : leader ∈ seen) :
    Swept graph next seen (done ++ [leader]) := by
  refine ⟨swept.closed, fun node member => ?_⟩
  rcases List.mem_append.1 member with before | last
  · exact swept.passed node before
  · rwa [List.mem_singleton.1 last]

/-- Once a new leader has been searched from, the ground is closed again. -/
theorem sweep (swept : Swept graph next seen done) (stored : leader ∈ graph) :
    Swept graph next (explore graph next seen [leader]) (done ++ [leader]) := by
  refine skip ⟨swept.closed.explore leader, fun node before => ?_⟩ ?_
  · exact mem_explore_of_mem_seen (swept.passed node before)
  · exact mem_explore_of_mem_todo (List.mem_singleton_self leader) stored

end Swept

section Graded

variable {order done rest : List String} (graded : Graded graph next order) {leader : String}
  (split : order = done ++ leader :: rest)

include graded split

theorem Graded.mem_of_split : leader ∈ graph := by
  rw [← graded.covers, split]
  simp

/-- By induction along a chain that keeps away from what has been passed: what comes after its first node
and before one of the others leads back to the first. -/
theorem Graded.back_along {place : String}
    (chain : ReflTransGen (fun node place => Leads graph next node place ∧ place ∉ done) leader place)
    {before after : List String} (here : leader :: rest = before ++ place :: after) :
    ∀ other ∈ before ++ [place], ReflTransGen (Leads graph next) other leader := by
  have once : (leader :: rest).Nodup := by
    have nodup := graded.nodup
    rw [split] at nodup
    exact (List.nodup_append.1 nodup).2.1
  induction chain generalizing before after with
  | refl =>
    cases before with
    | nil => simpa using ReflTransGen.refl
    | cons head before =>
      obtain ⟨rfl, again⟩ := List.cons.inj (here.trans List.cons_append)
      exact absurd (by simp [again]) (List.nodup_cons.1 once).1
  | @tail node place chain edge ih =>
    have listed : node ∈ leader :: rest := by
      rcases chain.cases_tail with rfl | ⟨_, _, _, ahead⟩
      · exact List.mem_cons_self
      · have among := (graded.covers node).2 edge.1.mem
        rw [split, List.mem_append] at among
        exact among.resolve_left ahead
    obtain ⟨front, back, there⟩ := List.append_of_mem listed
    have earlier := ih there
    rcases split_cases there here with ⟨between, rfl⟩ | within
    · have whole : order = (done ++ front) ++ node :: (between ++ place :: after) := by
        rw [split, here]
        simp
      intro other member
      have member : other ∈ front ++ [node] ∨ other ∈ between ++ [place] := by
        simpa [or_assoc] using member
      rcases member with before | onward
      · exact earlier other before
      · exact (graded.back whole edge.1 other onward).trans (earlier node (by simp))
    · exact fun other member => earlier other (within member)

variable {seen : TextSet} (swept : Swept graph next seen done)

include swept

/-- What a leader leads to and has not been seen leads back to the leader. -/
theorem Graded.leads_back {place : String} (chain : ReflTransGen (Leads graph next) leader place)
    (stored : place ∈ graph) (unseen : place ∉ seen) :
    ReflTransGen (Leads graph next) place leader := by
  have apart : ReflTransGen
      (fun node place => Leads graph next node place ∧ place ∉ done) leader place := by
    induction chain with
    | refl => exact .refl
    | @tail node place _ edge ih =>
      have fresh : node ∉ seen := fun known => unseen (swept.closed _ known _ edge stored)
      exact (ih edge.mem fresh).tail ⟨edge, fun early => unseen (swept.passed _ early)⟩
  have listed : place ∈ leader :: rest := by
    have among := (graded.covers place).2 stored
    rw [split, List.mem_append] at among
    exact among.resolve_left fun early => unseen (swept.passed _ early)
  obtain ⟨before, after, here⟩ := List.append_of_mem listed
  exact graded.back_along split apart here place (by simp)

/-- What is seen for the first time from a new leader is its component. -/
theorem Graded.mem_found_iff (fresh : leader ∉ seen) {place : String} :
    place ∈ explore graph next seen [leader] \ seen ↔ Entwined graph next leader place := by
  have inside := graded.mem_of_split split
  rw [Std.ExtTreeSet.mem_diff_iff, swept.closed.mem_explore_iff]
  constructor
  · rintro ⟨known | ⟨stored, chain⟩, unseen⟩
    · exact absurd known unseen
    · exact ⟨chain, graded.leads_back split swept chain stored unseen⟩
  · intro entwined
    have stored := mem_of_chain entwined.back inside
    exact ⟨Or.inr ⟨stored, entwined.there⟩,
      fun known => fresh (swept.closed.chain known entwined.back inside)⟩

end Graded

/-- Groups that are components, none of whose members has been seen or is in two of them. -/
structure Parts (graph : Std.ExtTreeMap String α) (next : α → List String) (seen : TextSet)
    (groups : List (List String)) : Prop where
  component : ∀ group ∈ groups, ∃ leader ∈ graph,
    ∀ node, node ∈ group ↔ Entwined graph next leader node
  unseen : ∀ node ∈ groups.flatten, node ∉ seen
  nodup : groups.flatten.Nodup

theorem Graded.parts_collect {order done rest : List String} (graded : Graded graph next order)
    (split : order = done ++ rest) {seen : TextSet} (swept : Swept graph next seen done) :
    Parts graph next seen (collect graph next seen rest) := by
  induction rest generalizing done seen with
  | nil => exact ⟨by simp [collect], by simp [collect], by simp [collect]⟩
  | cons leader rest ih =>
    have further : order = (done ++ [leader]) ++ rest := by simp [split]
    rw [collect]
    split
    · rename_i known
      exact ih further (swept.skip (Std.ExtTreeSet.mem_iff_contains.2 known))
    · rename_i fresh
      have fresh : leader ∉ seen := fun known => fresh (Std.ExtTreeSet.mem_iff_contains.1 known)
      have inside := graded.mem_of_split split
      have found := @Graded.mem_found_iff _ _ _ _ _ _ graded _ split _ swept fresh
      have later := ih further (swept.sweep inside)
      refine ⟨List.forall_mem_cons.2 ⟨⟨leader, inside, fun node => ?_⟩, later.component⟩, ?_, ?_⟩
      · rw [Std.ExtTreeSet.mem_toList, found]
      · intro node member known
        rcases List.mem_append.1 member with here | there
        · exact (Std.ExtTreeSet.mem_diff_iff.1 (Std.ExtTreeSet.mem_toList.1 here)).2 known
        · exact later.unseen node there (mem_explore_of_mem_seen known)
      · refine List.nodup_append.2 ⟨TextSet.toList_nodup _, later.nodup, fun node here other there => ?_⟩
        rintro rfl
        exact later.unseen node there
          (Std.ExtTreeSet.mem_diff_iff.1 (Std.ExtTreeSet.mem_toList.1 here)).1

/-- Each leader has been seen or is seen. -/
theorem mem_collect {rest : List String} {seen : TextSet} {node : String} (stored : node ∈ graph)
    (listed : node ∈ rest) : node ∈ seen ∨ node ∈ (collect graph next seen rest).flatten := by
  induction rest generalizing seen with
  | nil => simp at listed
  | cons leader rest ih =>
    rw [collect]
    split
    · rename_i known
      rcases List.mem_cons.1 listed with rfl | later
      · exact Or.inl (Std.ExtTreeSet.mem_iff_contains.2 known)
      · exact ih later
    · have arrives : node ∈ explore graph next seen [leader] ∨
          node ∈ (collect graph next (explore graph next seen [leader]) rest).flatten := by
        rcases List.mem_cons.1 listed with rfl | later
        · exact Or.inl (mem_explore_of_mem_todo (List.mem_singleton_self node) stored)
        · exact ih later
      rw [List.flatten_cons, List.mem_append, Std.ExtTreeSet.mem_toList,
        Std.ExtTreeSet.mem_diff_iff]
      by_cases known : node ∈ seen
      · exact Or.inl known
      · exact Or.inr (arrives.imp_left fun found => ⟨found, known⟩)

namespace Graded

variable {order : List String} (graded : Graded graph next order)

include graded

/-- The second of the two searches finds the components: it starts from its leaders in such an order
that what it finds from each for the first time leads back to it. -/
theorem parts : Parts graph next ∅ (collect graph next ∅ order) :=
  graded.parts_collect (List.nil_append _).symm .start

/-- There is a component of each node. -/
theorem exists_component {node : String} (stored : node ∈ graph) :
    ∃ component ∈ collect graph next ∅ order,
      ∀ other, other ∈ component ↔ Entwined graph next node other := by
  have found : node ∈ (collect graph next ∅ order).flatten :=
    (mem_collect stored ((graded.covers node).2 stored)).resolve_left (by simp)
  obtain ⟨component, listed, own⟩ := List.mem_flatten.1 found
  obtain ⟨leader, _, means⟩ := graded.parts.component component listed
  refine ⟨component, listed, fun other => ?_⟩
  rw [means]
  exact ⟨((means node).1 own).symm.trans, ((means node).1 own).trans⟩

end Graded

end Subschema
