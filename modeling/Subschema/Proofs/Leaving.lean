import Subschema.Proofs.Reach

namespace Subschema

open Relation

variable {α : Type} {graph : Std.ExtTreeMap String α} {next : α → List String}

namespace Visit

/-- The node that is entered or left. -/
def node : Visit → String
  | .enter node => node
  | .leave node => node

theorem leave_inj {node other : String} : leave node = leave other ↔ node = other :=
  ⟨fun same => Visit.leave.inj same, fun same => by rw [same]⟩

theorem enter_inj {node other : String} : enter node = enter other ↔ node = other :=
  ⟨fun same => Visit.enter.inj same, fun same => by rw [same]⟩

end Visit

/-- One visit is due, and another one after it. -/
def Due (visits : List Visit) (earlier later : Visit) : Prop :=
  [earlier, later].Sublist visits

theorem due_cons {visits : List Visit} {first earlier later : Visit} :
    Due (first :: visits) earlier later ↔
      Due visits earlier later ∨ earlier = first ∧ later ∈ visits := by
  rw [Due, List.sublist_cons_iff]
  refine or_congr Iff.rfl ⟨?_, ?_⟩
  · rintro ⟨last, same, member⟩
    obtain ⟨rfl, rfl⟩ := List.cons.inj same
    exact ⟨rfl, List.singleton_sublist.1 member⟩
  · rintro ⟨rfl, member⟩
    exact ⟨[later], rfl, List.singleton_sublist.2 member⟩

theorem Due.mem {visits : List Visit} {earlier later : Visit} (due : Due visits earlier later) :
    later ∈ visits :=
  due.subset (by simp)

theorem Due.append {visits : List Visit} {earlier later : Visit} (due : Due visits earlier later)
    (before : List Visit) : Due (before ++ visits) earlier later :=
  List.Sublist.trans due (List.sublist_append_right before visits)

/-- A depth-first search on its way. The nodes to be left are those on the way to the next visit, so
each of them leads to whatever is visited before it is left. -/
structure Underway (graph : Std.ExtTreeMap String α) (next : α → List String) (seen : TextSet)
    (visits : List Visit) : Prop where
  opened : ∀ node, .leave node ∈ visits → node ∈ seen
  once : ∀ node, ¬ Due visits (.leave node) (.leave node)
  listed : ∀ node, .leave node ∈ visits → ∀ place, Leads graph next node place → place ∈ graph →
    place ∈ seen ∨ Due visits (.enter place) (.leave node)
  above : ∀ visit node, Due visits visit (.leave node) → TransGen (Leads graph next) node visit.node

namespace Underway

theorem start (nodes : List String) : Underway graph next ∅ (nodes.map .enter) := by
  have enters : ∀ node, Visit.leave node ∉ nodes.map .enter := by simp
  exact ⟨fun node member => (enters node member).elim, fun node due => enters node due.mem,
    fun node member => (enters node member).elim, fun _ node due => (enters node due.mem).elim⟩

theorem leave {seen : TextSet} {node : String} {rest : List Visit}
    (underway : Underway graph next seen (.leave node :: rest)) : Underway graph next seen rest where
  opened := fun other member => underway.opened other (List.mem_cons_of_mem _ member)
  once := fun other due => underway.once other (due_cons.2 (Or.inl due))
  listed := by
    intro other member place edge stored
    refine (underway.listed other (List.mem_cons_of_mem _ member) place edge stored).imp_right ?_
    intro due
    exact (due_cons.1 due).resolve_right fun first => by simp at first
  above := fun visit other due => underway.above visit other (due_cons.2 (Or.inl due))

theorem skip {seen : TextSet} {node : String} {rest : List Visit}
    (underway : Underway graph next seen (.enter node :: rest)) (idle : node ∈ seen ∨ node ∉ graph) :
    Underway graph next seen rest where
  opened := fun other member => underway.opened other (List.mem_cons_of_mem _ member)
  once := fun other due => underway.once other (due_cons.2 (Or.inl due))
  listed := by
    intro other member place edge stored
    rcases underway.listed other (List.mem_cons_of_mem _ member) place edge stored with known | due
    · exact Or.inl known
    · rcases due_cons.1 due with later | ⟨first, _⟩
      · exact Or.inr later
      · rw [Visit.enter_inj.1 first] at stored ⊢
        exact Or.inl (idle.resolve_right (not_not_intro stored))
  above := fun visit other due => underway.above visit other (due_cons.2 (Or.inl due))

/-- Whatever is due before a node is left, when it has just been entered, is due among its own edges
or was due before. -/
theorem due_enter {node : String} {listed : List String} {rest : List Visit} {earlier : Visit}
    {other : String}
    (due : Due (listed.map .enter ++ .leave node :: rest) earlier (.leave other)) :
    Due (.leave node :: rest) earlier (.leave other) ∨
      .leave other ∈ Visit.leave node :: rest ∧ ∃ place ∈ listed, earlier = .enter place := by
  induction listed with
  | nil => exact Or.inl due
  | cons place listed ih =>
    rw [List.map_cons, List.cons_append] at due
    rcases due_cons.1 due with later | ⟨rfl, member⟩
    · exact (ih later).imp_right fun ⟨left, other, member, same⟩ =>
        ⟨left, other, List.mem_cons_of_mem _ member, same⟩
    · exact Or.inr ⟨by simpa using member, place, List.mem_cons_self, rfl⟩

theorem enter {seen : TextSet} {node : String} {rest : List Visit} {a : α}
    (underway : Underway graph next seen (.enter node :: rest)) (stored : graph[node]? = some a)
    (fresh : node ∉ seen) :
    Underway graph next (seen.insert node) ((next a).map .enter ++ .leave node :: rest) := by
  have before : ∀ other, Visit.leave other ∈ (next a).map .enter ++ .leave node :: rest →
      other = node ∨ .leave other ∈ rest := by
    intro other member
    simpa [Visit.leave_inj] using member
  have unopened : Visit.leave node ∉ rest := fun member =>
    fresh (underway.opened node (List.mem_cons_of_mem _ member))
  have leads : ∀ other, .leave other ∈ rest → TransGen (Leads graph next) other node :=
    fun other member => underway.above _ other (due_cons.2 (Or.inr ⟨rfl, member⟩))
  refine ⟨fun other member => ?_, fun other due => ?_, fun other member place edge inside => ?_,
    fun visit other due => ?_⟩
  · rcases before other member with rfl | later
    · exact Std.ExtTreeSet.mem_insert_self
    · exact TextSet.mem_insert_iff.2
        (Or.inr (underway.opened other (List.mem_cons_of_mem _ later)))
  · rcases due_enter due with later | ⟨_, _, _, same⟩
    · rcases due_cons.1 later with again | ⟨same, member⟩
      · exact underway.once other (due_cons.2 (Or.inl again))
      · rw [Visit.leave_inj.1 same] at member
        exact unopened member
    · simp at same
  · rcases before other member with rfl | later
    · obtain ⟨b, again, named⟩ := edge
      cases Option.some.inj (stored.symm.trans again)
      refine Or.inr (List.Sublist.append (List.singleton_sublist.2 ?_) (List.singleton_sublist.2 ?_))
      · exact List.mem_map_of_mem named
      · exact List.mem_cons_self
    · rcases underway.listed other (List.mem_cons_of_mem _ later) place edge inside with known | due
      · exact Or.inl (TextSet.mem_insert_iff.2 (Or.inr known))
      · rcases due_cons.1 due with due | ⟨first, _⟩
        · exact Or.inr (Due.append (due_cons.2 (Or.inl due)) _)
        · rw [Visit.enter_inj.1 first]
          exact Or.inl Std.ExtTreeSet.mem_insert_self
  · rcases due_enter due with later | ⟨member, place, named, rfl⟩
    · rcases due_cons.1 later with again | ⟨rfl, member⟩
      · exact underway.above visit other (due_cons.2 (Or.inl again))
      · exact leads other member
    · have edge : Leads graph next node place := ⟨a, stored, named⟩
      rcases List.mem_cons.1 member with same | later
      · rw [Visit.leave_inj.1 same]
        exact .single edge
      · exact (leads other later).tail edge

end Underway

/-- What a search leaves is on its way to be left, or a node not seen before. -/
theorem mem_of_mem_leaving {seen : TextSet} {visits : List Visit} {node : String}
    (member : node ∈ leaving graph next seen visits) :
    .leave node ∈ visits ∨ node ∈ graph ∧ node ∉ seen := by
  fun_induction leaving graph next seen visits with
  | case1 => simp at member
  | case2 seen first rest ih =>
    rcases List.mem_cons.1 member with rfl | later
    · exact Or.inl List.mem_cons_self
    · exact (ih later).imp_left (List.mem_cons_of_mem _)
  | case3 seen first rest absent ih => exact (ih member).imp_left (List.mem_cons_of_mem _)
  | case4 seen first rest a stored known ih => exact (ih member).imp_left (List.mem_cons_of_mem _)
  | case5 seen first rest a stored fresh ih =>
    have fresh : first ∉ seen := fun known => fresh (Std.ExtTreeSet.mem_iff_contains.1 known)
    rcases ih member with left | ⟨inside, unseen⟩
    · rcases (by simpa [Visit.leave_inj] using left) with rfl | later
      · exact Or.inr ⟨mem_of_getElem? stored, fresh⟩
      · exact Or.inl (List.mem_cons_of_mem _ later)
    · exact Or.inr ⟨inside, fun known => unseen (TextSet.mem_insert_iff.2 (Or.inr known))⟩

/-- What is on its way to be left is left. -/
theorem mem_leaving_of_leave {seen : TextSet} {visits : List Visit} {node : String}
    (due : .leave node ∈ visits) : node ∈ leaving graph next seen visits := by
  fun_induction leaving graph next seen visits with
  | case1 => simp at due
  | case2 seen first rest ih =>
    rcases List.mem_cons.1 due with same | later
    · rw [Visit.leave_inj.1 same]
      exact List.mem_cons_self
    · exact List.mem_cons_of_mem _ (ih later)
  | case3 seen first rest absent ih => exact ih (by simpa using due)
  | case4 seen first rest a stored known ih => exact ih (by simpa using due)
  | case5 seen first rest a stored fresh ih =>
    refine ih (List.mem_append_right _ (List.mem_cons_of_mem _ ?_))
    simpa using due

/-- A node that is still to be entered is left in the end. -/
theorem mem_leaving_of_enter {seen : TextSet} {visits : List Visit} {node : String}
    (stored : node ∈ graph) (unseen : node ∉ seen) (due : .enter node ∈ visits) :
    node ∈ leaving graph next seen visits := by
  fun_induction leaving graph next seen visits with
  | case1 => simp at due
  | case2 seen first rest ih => exact List.mem_cons_of_mem _ (ih unseen (by simpa using due))
  | case3 seen first rest absent ih =>
    rcases List.mem_cons.1 due with same | later
    · rw [Visit.enter_inj.1 same] at stored
      exact absurd stored (not_mem_of_getElem? absent)
    · exact ih unseen later
  | case4 seen first rest a found known ih =>
    rcases List.mem_cons.1 due with same | later
    · rw [Visit.enter_inj.1 same] at unseen
      exact absurd (Std.ExtTreeSet.mem_iff_contains.2 known) unseen
    · exact ih unseen later
  | case5 seen first rest a found fresh ih =>
    by_cases same : node = first
    · refine mem_leaving_of_leave (List.mem_append_right _ ?_)
      rw [same]
      exact List.mem_cons_self
    · have still : node ∉ seen.insert first := by
        rw [TextSet.mem_insert_iff]
        exact not_or_intro (Ne.symm same) unseen
      have later : .enter node ∈ rest :=
        (List.mem_cons.1 due).resolve_left fun first => same (Visit.enter_inj.1 first)
      exact ih still (List.mem_append_right _ (List.mem_cons_of_mem _ later))

/-- No node is left twice. -/
theorem Underway.nodup {seen : TextSet} {visits : List Visit}
    (underway : Underway graph next seen visits) : (leaving graph next seen visits).Nodup := by
  fun_induction leaving graph next seen visits with
  | case1 => exact .nil
  | case2 seen node rest ih =>
    refine List.nodup_cons.2 ⟨fun again => ?_, ih underway.leave⟩
    rcases mem_of_mem_leaving again with due | ⟨_, unseen⟩
    · exact underway.once node (due_cons.2 (Or.inr ⟨rfl, due⟩))
    · exact unseen (underway.opened node List.mem_cons_self)
  | case3 seen node rest absent ih =>
    exact ih (underway.skip (Or.inr (not_mem_of_getElem? absent)))
  | case4 seen node rest a stored known ih =>
    exact ih (underway.skip (Or.inl (Std.ExtTreeSet.mem_iff_contains.2 known)))
  | case5 seen node rest a stored fresh ih =>
    exact ih (underway.enter stored fun known => fresh (Std.ExtTreeSet.mem_iff_contains.1 known))

/-- Without loops, what a node leads to has been left when the node is left: it has been seen by
then, and were it still on the way, it would lead back to the node. -/
theorem Underway.left_before {seen : TextSet} {visits : List Visit}
    (underway : Underway graph next seen visits)
    (acyclic : ∀ node, ¬ TransGen (Leads graph next) node node) {before rest : List String}
    {node place : String} (split : leaving graph next seen visits = before ++ node :: rest)
    (edge : Leads graph next node place) (inside : place ∈ graph) :
    place ∈ before ∨ place ∈ seen ∧ .leave place ∉ visits := by
  fun_induction leaving graph next seen visits generalizing before with
  | case1 => simp at split
  | case2 seen first visits ih =>
    cases before with
    | nil =>
      obtain ⟨rfl, _⟩ := List.cons.inj split
      -- Whatever is still to be left is above the node, so it would close a loop.
      right
      have apart : .leave place ∉ visits := by
        intro due
        have back := underway.above _ place (due_cons.2 (Or.inr ⟨rfl, due⟩))
        exact acyclic place (back.tail edge)
      have other : place ≠ first := by
        rintro rfl
        exact acyclic place (.single edge)
      refine ⟨?_, by simpa [Visit.leave_inj, other] using apart⟩
      rcases underway.listed first List.mem_cons_self place edge inside with known | due
      · exact known
      · have later := (due_cons.1 due).resolve_right fun first => by simp at first
        exact (underway.once first (due_cons.2 (Or.inr ⟨rfl, later.mem⟩))).elim
    | cons head before =>
      obtain ⟨rfl, further⟩ := List.cons.inj (split.trans List.cons_append)
      rcases ih underway.leave further with earlier | ⟨known, apart⟩
      · exact Or.inl (List.mem_cons_of_mem _ earlier)
      · by_cases same : place = first
        · rw [same]
          exact Or.inl List.mem_cons_self
        · exact Or.inr ⟨known, by simpa [Visit.leave_inj, same] using apart⟩
  | case3 seen first visits absent ih =>
    simpa using ih (underway.skip (Or.inr (not_mem_of_getElem? absent))) split
  | case4 seen first visits a stored known ih =>
    have idle : first ∈ seen := Std.ExtTreeSet.mem_iff_contains.2 known
    simpa using ih (underway.skip (Or.inl idle)) split
  | case5 seen first visits a stored fresh ih =>
    have fresh : first ∉ seen := fun known => fresh (Std.ExtTreeSet.mem_iff_contains.1 known)
    refine (ih (underway.enter stored fresh) split).imp_right fun ⟨known, apart⟩ => ?_
    obtain ⟨other, apart⟩ : place ≠ first ∧ .leave place ∉ visits := by
      simpa [Visit.leave_inj] using apart
    refine ⟨(TextSet.mem_insert_iff.1 known).resolve_left (Ne.symm other), ?_⟩
    simpa using apart

/-- What is left before a node that is on its way to be left is above it. -/
theorem Underway.above_of_left_before {seen : TextSet} {visits : List Visit}
    (underway : Underway graph next seen visits) {before rest : List String} {node other : String}
    (due : .leave node ∈ visits) (split : leaving graph next seen visits = before ++ node :: rest)
    (earlier : other ∈ before) : TransGen (Leads graph next) node other := by
  fun_induction leaving graph next seen visits generalizing before with
  | case1 => simp at due
  | case2 seen first visits ih =>
    cases before with
    | nil => simp at earlier
    | cons head before =>
      obtain ⟨rfl, further⟩ := List.cons.inj (split.trans List.cons_append)
      have once := underway.nodup
      rw [leaving, List.nodup_cons, further] at once
      have later : .leave node ∈ visits := by
        refine (List.mem_cons.1 due).resolve_left fun same => once.1 ?_
        rw [← Visit.leave_inj.1 same]
        simp
      rcases List.mem_cons.1 earlier with rfl | between
      · exact underway.above _ node (due_cons.2 (Or.inr ⟨rfl, later⟩))
      · exact ih underway.leave later further between
  | case3 seen first visits absent ih =>
    have skipped := underway.skip (Or.inr (not_mem_of_getElem? absent))
    exact ih skipped (by simpa using due) split earlier
  | case4 seen first visits a stored known ih =>
    have idle : first ∈ seen := Std.ExtTreeSet.mem_iff_contains.2 known
    exact ih (underway.skip (Or.inl idle)) (by simpa using due) split earlier
  | case5 seen first visits a stored fresh ih =>
    have fresh : first ∉ seen := fun known => fresh (Std.ExtTreeSet.mem_iff_contains.1 known)
    exact ih (underway.enter stored fresh) (by simpa using Or.inr due) split earlier

/-- A node that is left before one that it leads to is above it, and so is all that is left between
them: the other one must have been on its way. -/
theorem Underway.above_of_leads_later {seen : TextSet} {visits : List Visit}
    (underway : Underway graph next seen visits) {before between rest : List String}
    {node place : String}
    (split : leaving graph next seen visits = before ++ node :: (between ++ place :: rest))
    (edge : Leads graph next node place) :
    ∀ other ∈ node :: between, TransGen (Leads graph next) place other := by
  fun_induction leaving graph next seen visits generalizing before with
  | case1 => simp at split
  | case2 seen first visits ih =>
    cases before with
    | nil =>
      obtain ⟨rfl, further⟩ := List.cons.inj split
      have due : .leave place ∈ visits := by
        have left : place ∈ leaving graph next seen visits := by simp [further]
        refine (mem_of_mem_leaving left).resolve_right fun ⟨inside, unseen⟩ => ?_
        have entered := (underway.listed _ List.mem_cons_self place edge inside).resolve_left unseen
        have later := (due_cons.1 entered).resolve_right fun first => by simp at first
        exact underway.once _ (due_cons.2 (Or.inr ⟨rfl, later.mem⟩))
      refine List.forall_mem_cons.2 ⟨?_, fun other inner => ?_⟩
      · exact underway.above _ place (due_cons.2 (Or.inr ⟨rfl, due⟩))
      · exact underway.leave.above_of_left_before due further inner
    | cons head before =>
      obtain ⟨rfl, further⟩ := List.cons.inj (split.trans List.cons_append)
      exact ih underway.leave further
  | case3 seen first visits absent ih =>
    exact ih (underway.skip (Or.inr (not_mem_of_getElem? absent))) split
  | case4 seen first visits a stored known ih =>
    exact ih (underway.skip (Or.inl (Std.ExtTreeSet.mem_iff_contains.2 known))) split
  | case5 seen first visits a stored fresh ih =>
    exact ih (underway.enter stored fun known => fresh (Std.ExtTreeSet.mem_iff_contains.1 known)) split

/-- Each node is left once. -/
theorem bottomUp_nodup (start : List String) : (bottomUp graph next start).Nodup :=
  (Underway.start start).nodup

/-- A search from all nodes leaves all nodes, and nothing else. -/
theorem mem_bottomUp {start : List String} (covers : ∀ node ∈ graph, node ∈ start) {node : String} :
    node ∈ bottomUp graph next start ↔ node ∈ graph := by
  constructor
  · intro member
    exact ((mem_of_mem_leaving member).resolve_left (by simp)).1
  · intro stored
    exact mem_leaving_of_enter stored (by simp) (List.mem_map_of_mem (covers node stored))

/-- Without loops, every node comes after all nodes that it leads to. -/
theorem bottomUp_sorted (acyclic : ∀ node, ¬ TransGen (Leads graph next) node node)
    {start before rest : List String} {node place : String}
    (split : bottomUp graph next start = before ++ node :: rest)
    (edge : Leads graph next node place) (inside : place ∈ graph) : place ∈ before :=
  ((Underway.start start).left_before acyclic split edge inside).resolve_right (by simp)

/-- Where a node is left before one that it leads to, that one leads back to it. -/
theorem above_of_bottomUp {start before between rest : List String} {node place : String}
    (split : bottomUp graph next start = before ++ node :: (between ++ place :: rest))
    (edge : Leads graph next node place) :
    ∀ other ∈ node :: between, TransGen (Leads graph next) place other :=
  (Underway.start start).above_of_leads_later split edge

end Subschema
