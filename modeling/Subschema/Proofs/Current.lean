import Mathlib.Data.List.Basic
import Subschema.Index
import Subschema.Proofs.Chains
import Subschema.Proofs.Coherent
import Subschema.Proofs.Links

namespace Subschema

open Relation

/-- What is stored under an identifier names a superior. -/
def Store.Names (store : Store) (sub sup : String) : Prop :=
  ∃ d, store.get? sub = some d ∧ sup ∈ d.superiors

namespace Store

theorem contains_eq_true_iff {store : Store} {oid : String} :
    store.contains oid = true ↔ ∃ d, store.get? oid = some d := by
  rw [contains, Option.isSome_iff_exists]

theorem contains_of_insert {store after : Store} {oid : String} {d : Definition}
    (definitions : after.definitions = store.definitions.insert oid d) (other : String) :
    after.contains other = true ↔ other = oid ∨ store.contains other = true := by
  rw [contains, contains, get?_of_insert definitions]
  by_cases same : other = oid
  · simp [same]
  · simp [same]

theorem contains_of_erase {store after : Store} {oid : String}
    (definitions : after.definitions = store.definitions.erase oid) (other : String) :
    after.contains other = true ↔ other ≠ oid ∧ store.contains other = true := by
  rw [contains, contains, get?_of_erase definitions]
  by_cases same : other = oid
  · simp [same]
  · simp [same]

theorem Names.contains {store : Store} {sub sup : String} (names : store.Names sub sup) :
    store.contains sub = true := by
  obtain ⟨d, stored, _⟩ := names
  exact contains_eq_true_iff.2 ⟨d, stored⟩

/-- The ancestors of some superiors are the stored ends of chains of edges from them. -/
theorem mem_ancestors {store : Store} {superiors : List String} {ancestor : String} :
    ancestor ∈ store.ancestors superiors ↔ store.contains ancestor = true ∧
      ∃ superior ∈ superiors, ReflTransGen store.Names superior ancestor := by
  rw [ancestors, mem_reached, Std.ExtTreeMap.mem_iff_isSome_getElem?]
  rfl

/-- The ancestors of what is stored under an identifier are the stored ends of chains from it. -/
theorem mem_ancestors_of_stored {store : Store} {oid ancestor : String} :
    (∃ d, store.get? oid = some d ∧ ancestor ∈ store.ancestors d.superiors) ↔
      store.contains ancestor = true ∧ TransGen store.Names oid ancestor := by
  constructor
  · rintro ⟨d, stored, above⟩
    obtain ⟨kept, superior, named, chain⟩ := mem_ancestors.1 above
    exact ⟨kept, .head' ⟨d, stored, named⟩ chain⟩
  · rintro ⟨kept, chain⟩
    obtain ⟨superior, ⟨d, stored, named⟩, rest⟩ := TransGen.head'_iff.1 chain
    exact ⟨d, stored, mem_ancestors.2 ⟨kept, superior, named, rest⟩⟩

/-- A coherent store lists what it has under the identifier of each. -/
theorem Coherent.mem_toList {store : Store} (coherent : store.Coherent) {d : Definition} :
    d ∈ store.toList ↔ store.get? d.oid.text = some d := by
  rw [toList, List.mem_map]
  constructor
  · rintro ⟨⟨oid, held⟩, member, rfl⟩
    have stored := Std.ExtTreeMap.mem_toList_iff_getElem?_eq_some.1 member
    rw [coherent.keyed stored]
    exact stored
  · intro stored
    exact ⟨(d.oid.text, d), Std.ExtTreeMap.mem_toList_iff_getElem?_eq_some.2 stored, rfl⟩

theorem Coherent.get?_eq_some_iff {store : Store} (coherent : store.Coherent) {oid : String}
    {d : Definition} : store.get? oid = some d ↔ d ∈ store.toList ∧ d.oid.text = oid := by
  rw [coherent.mem_toList]
  constructor
  · intro stored
    have own := coherent.keyed stored
    exact ⟨by rw [own, stored], own⟩
  · rintro ⟨stored, rfl⟩
    exact stored

/-- A definition that is new to a store gains it the edges to its superiors. -/
theorem gains_of_insert {store after : Store} {d : Definition} {oid : String}
    (absent : store.get? oid = none)
    (definitions : after.definitions = store.definitions.insert oid d) :
    Gains store.Names after.Names oid (· ∈ d.superiors) := by
  intro sub sup
  unfold Names
  rw [get?_of_insert definitions]
  by_cases same : sub = oid
  · simp [same, absent]
  · simp [same]

/-- A definition that is removed takes the edges to its superiors with it. -/
theorem gains_of_erase {store after : Store} {d : Definition} {oid : String}
    (stored : store.get? oid = some d)
    (definitions : after.definitions = store.definitions.erase oid) :
    Gains after.Names store.Names oid (· ∈ d.superiors) := by
  intro sub sup
  unfold Names
  rw [get?_of_erase definitions]
  by_cases same : sub = oid
  · simp [same, stored]
  · simp [same]

end Store

namespace Index

/-- The rows of an index hold what the store calls for: below a stored definition all that a chain
of superiors leads to it from, and below a superior that is not stored those that name it. -/
structure Current (index : Index) (store : Store) : Prop where
  descendants : ∀ {ancestor oid}, oid ∈ index.descendants.row ancestor ↔
    store.contains ancestor = true ∧ TransGen store.Names oid ancestor
  waiting : ∀ {superior oid}, oid ∈ index.waiting.row superior ↔
    store.contains superior = false ∧ store.Names oid superior

/-- There is one current index for each store: its rows are read off the store, and the empty ones
are not kept. -/
theorem Current.unique {first second : Index} {store : Store} (one : first.Current store)
    (two : second.Current store) : first = second := by
  have descendants : first.descendants = second.descendants :=
    Links.ext_mem fun _ _ => one.descendants.trans two.descendants.symm
  have waiting : first.waiting = second.waiting :=
    Links.ext_mem fun _ _ => one.waiting.trans two.waiting.symm
  cases first
  cases second
  cases descendants
  cases waiting
  rfl

theorem mem_waiting_park {index : Index} {store : Store} {d : Definition}
    {superior oid : String} :
    oid ∈ (index.park store d).waiting.row superior ↔ oid ∈ index.waiting.row superior ∨
      superior ∈ d.superiors ∧ store.contains superior = false ∧ oid = d.oid.text := by
  unfold park
  rw [foldl_gains (fun links : Links => oid ∈ links.row superior)
    (fun named => superior = named ∧ store.contains named = false ∧ oid = d.oid.text)]
  · simp
  · intro links named
    split
    · rename_i stored
      simp [stored]
    · rename_i absent
      simp [Links.mem_row_link, absent]

theorem mem_descendants_spread {index : Index} {store : Store} {d : Definition} {below : TextSet}
    {ancestor oid : String} :
    oid ∈ (index.spread store d below).descendants.row ancestor ↔
      oid ∈ index.descendants.row ancestor ∨ ancestor ∈ store.ancestors d.superiors ∧
        oid ∈ below := by
  unfold spread
  rw [Std.ExtTreeSet.foldl_eq_foldl_toList,
    foldl_gains (fun links : Links => oid ∈ links.row ancestor)
      (fun source => ancestor = source ∧ oid ∈ below) fun _ _ => Links.mem_row_linkAll]
  simp

theorem mem_adopted {index : Index} {oid below : String} :
    below ∈ index.adopted oid ↔ ∃ child ∈ index.waiting.row oid,
      below = child ∨ below ∈ index.descendants.row child := by
  unfold adopted
  rw [Std.ExtTreeSet.foldl_eq_foldl_toList,
    foldl_gains (fun set : TextSet => below ∈ set)
      (fun child => below = child ∨ below ∈ index.descendants.row child)]
  · simp
  · intro set child
    rw [Std.ExtTreeSet.mem_union_iff, TextSet.mem_insert_iff, eq_comm (a := child)]

theorem mem_descendants_rebuild {store : Store} {ancestor oid : String} :
    oid ∈ (rebuild store).descendants.row ancestor ↔
      ∃ d ∈ store.toList, ancestor ∈ store.ancestors d.superiors ∧ oid = d.oid.text := by
  unfold rebuild
  rw [foldl_gains (fun index : Index => oid ∈ index.descendants.row ancestor)
    (fun d => ancestor ∈ store.ancestors d.superiors ∧ oid = d.oid.text)]
  · simp [Links.row, Links.empty]
  · intro index d
    change oid ∈ (index.spread store d _).descendants.row ancestor ↔ _
    rw [mem_descendants_spread, TextSet.mem_singleton_iff]

theorem mem_waiting_rebuild {store : Store} {superior oid : String} :
    oid ∈ (rebuild store).waiting.row superior ↔
      ∃ d ∈ store.toList, superior ∈ d.superiors ∧ store.contains superior = false ∧
        oid = d.oid.text := by
  unfold rebuild
  rw [foldl_gains (fun index : Index => oid ∈ index.waiting.row superior)
    (fun d => superior ∈ d.superiors ∧ store.contains superior = false ∧ oid = d.oid.text)]
  · simp [Links.row, Links.empty]
  · intro index d
    exact mem_waiting_park

/-- Rebuilding makes the current index of its store. -/
theorem rebuild_current {store : Store} (coherent : store.Coherent) :
    (rebuild store).Current store := by
  refine ⟨fun {ancestor oid} => ?_, fun {superior oid} => ?_⟩
  · rw [mem_descendants_rebuild, ← Store.mem_ancestors_of_stored]
    constructor
    · rintro ⟨d, member, above, rfl⟩
      exact ⟨d, coherent.mem_toList.1 member, above⟩
    · rintro ⟨d, stored, above⟩
      obtain ⟨member, own⟩ := coherent.get?_eq_some_iff.1 stored
      exact ⟨d, member, above, own.symm⟩
  · rw [mem_waiting_rebuild]
    constructor
    · rintro ⟨d, member, named, absent, rfl⟩
      exact ⟨absent, d, coherent.mem_toList.1 member, named⟩
    · rintro ⟨absent, d, stored, named⟩
      obtain ⟨member, own⟩ := coherent.get?_eq_some_iff.1 stored
      exact ⟨d, member, named, absent, own.symm⟩

/-- What waits for an identifier that is not stored is, with all below it, what comes to it along
chains of superiors. -/
theorem Current.mem_adopted_iff {index : Index} {store : Store} (current : index.Current store)
    {oid below : String} (absent : store.contains oid = false) :
    below ∈ index.adopted oid ↔ TransGen store.Names below oid := by
  rw [mem_adopted, TransGen.tail'_iff]
  constructor
  · rintro ⟨child, waits, same | under⟩
    · subst same
      exact ⟨below, .refl, (current.waiting.1 waits).2⟩
    · exact ⟨child, (current.descendants.1 under).2.to_reflTransGen, (current.waiting.1 waits).2⟩
  · rintro ⟨child, chain, names⟩
    refine ⟨child, current.waiting.2 ⟨absent, names⟩, ?_⟩
    rcases reflTransGen_iff_eq_or_transGen.1 chain with same | chain
    · exact Or.inl same.symm
    · exact Or.inr (current.descendants.2 ⟨names.contains, chain⟩)

/-- As nothing is below a definition that is not stored, it makes no difference that what it adopts takes
the place of what it had. -/
theorem mem_descendants_adopt {index : Index} {oid : String}
    (vacant : ∀ below, below ∉ index.descendants.row oid) {ancestor below : String} :
    below ∈ (index.adopt oid).descendants.row ancestor ↔
      below ∈ index.descendants.row ancestor ∨ ancestor = oid ∧ below ∈ index.adopted oid := by
  simp only [adopt]
  split
  · rename_i none
    have nothing : below ∉ index.adopted oid := by
      rw [Std.ExtTreeSet.isEmpty_iff.1 none]
      simp
    simp [nothing]
  · rw [Links.mem_row_setRow]
    by_cases own : ancestor = oid
    · subst own
      simp [vacant]
    · simp [own]

/-- What entering adds: what has waited comes below the definition, and all of it with the
definition below the ancestors. -/
theorem mem_descendants_enter {index : Index} {store : Store} {d : Definition}
    (vacant : ∀ below, below ∉ index.descendants.row d.oid.text) {ancestor oid : String} :
    oid ∈ (index.enter store d).descendants.row ancestor ↔
      (oid ∈ index.descendants.row ancestor ∨
        ancestor = d.oid.text ∧ oid ∈ index.adopted d.oid.text) ∨
      ancestor ∈ store.ancestors d.superiors ∧
        (d.oid.text = oid ∨ oid ∈ index.adopted d.oid.text) := by
  rw [← TextSet.mem_insert_iff, ← mem_descendants_adopt vacant]
  exact mem_descendants_spread

theorem mem_waiting_enter {index : Index} {store : Store} {d : Definition}
    {superior oid : String} :
    oid ∈ (index.enter store d).waiting.row superior ↔
      oid ∈ index.waiting.row superior ∧ superior ≠ d.oid.text ∨
      superior ∈ d.superiors ∧ store.contains superior = false ∧ oid = d.oid.text := by
  rw [← Links.mem_row_eraseRow]
  exact mem_waiting_park

/-- Entering a new definition turns the index into that of the store with it. -/
theorem enter_current {index : Index} {store after : Store} {d : Definition}
    (current : index.Current store) (absent : store.get? d.oid.text = none)
    (definitions : after.definitions = store.definitions.insert d.oid.text d) :
    (index.enter after d).Current after := by
  have gains := Store.gains_of_insert absent definitions
  have missing := Store.contains_eq_false_iff.2 absent
  have contains := Store.contains_of_insert definitions
  have vacant : ∀ below, below ∉ index.descendants.row d.oid.text := by
    intro below listed
    rw [current.descendants, missing] at listed
    simp at listed
  refine ⟨fun {ancestor oid} => ?_, fun {superior oid} => ?_⟩
  · rw [mem_descendants_enter vacant, current.mem_adopted_iff missing, current.descendants,
      Store.mem_ancestors, gains.after_hub]
    constructor
    · rintro ((⟨kept, chain⟩ | ⟨rfl, chain⟩) | ⟨⟨kept, fromHub⟩, below⟩)
      · exact ⟨(contains _).2 (Or.inr kept), TransGen.mono gains.le _ _ chain⟩
      · exact ⟨(contains _).2 (Or.inl rfl), TransGen.mono gains.le _ _ chain⟩
      · have toHub := reflTransGen_iff_eq_or_transGen.2 below
        exact ⟨kept, (gains.transGen_iff _ _).2 (Or.inr ⟨toHub, fromHub⟩)⟩
    · rintro ⟨kept, chain⟩
      rcases (gains.transGen_iff _ _).1 chain with old | ⟨toHub, fromHub⟩
      · rcases (contains _).1 kept with rfl | before
        · exact Or.inl (Or.inr ⟨rfl, old⟩)
        · exact Or.inl (Or.inl ⟨before, old⟩)
      · exact Or.inr ⟨⟨kept, fromHub⟩, reflTransGen_iff_eq_or_transGen.1 toHub⟩
  · rw [mem_waiting_enter, current.waiting]
    have absent_after : after.contains superior = false ↔
        superior ≠ d.oid.text ∧ store.contains superior = false := by
      rw [← Bool.not_eq_true, contains, not_or, Bool.not_eq_true]
    constructor
    · rintro (⟨⟨before, names⟩, other⟩ | ⟨named, still, rfl⟩)
      · exact ⟨absent_after.2 ⟨other, before⟩, gains.le _ _ names⟩
      · exact ⟨still, gains.new named⟩
    · rintro ⟨still, names⟩
      rcases (gains _ _).1 names with old | ⟨same, named⟩
      · obtain ⟨other, before⟩ := absent_after.1 still
        exact Or.inl ⟨⟨before, old⟩, other⟩
      · exact Or.inr ⟨named, still, same⟩

theorem mem_descendants_restore {index : Index} {store : Store} {removed descendant : String}
    {ancestors : TextSet} {ancestor oid : String} :
    oid ∈ (index.restore store removed ancestors descendant).descendants.row ancestor ↔
      oid ∈ index.descendants.row ancestor ∨ oid = descendant ∧ ancestor ∈ ancestors ∧
        ∃ d, store.get? descendant = some d ∧ ancestor ∈ store.ancestors d.superiors := by
  unfold restore
  cases stored : store.get? descendant with
  | none => simp
  | some d =>
    change oid ∈ Links.row (Std.ExtTreeSet.foldl _ _ _) ancestor ↔ _
    rw [Std.ExtTreeSet.foldl_eq_foldl_toList,
      foldl_gains (fun links : Links => oid ∈ links.row ancestor)
        (fun source => ancestor = source ∧ source ∈ ancestors ∧ oid = descendant)]
    · simp
      grind
    · intro links source
      split
      · rename_i among
        simp [Links.mem_row_link, Std.ExtTreeSet.mem_iff_contains.2 among]
      · rename_i other
        have outside : source ∉ ancestors := by rwa [Std.ExtTreeSet.mem_iff_contains]
        simp [outside]

theorem mem_waiting_restore {index : Index} {store : Store} {removed descendant : String}
    {ancestors : TextSet} {superior oid : String} :
    oid ∈ (index.restore store removed ancestors descendant).waiting.row superior ↔
      oid ∈ index.waiting.row superior ∨ oid = descendant ∧ superior = removed ∧
        store.Names descendant removed := by
  unfold restore Store.Names
  cases stored : store.get? descendant with
  | none => simp
  | some d =>
    by_cases names : removed ∈ d.superiors
    · simp [names, Links.mem_row_link, and_comm]
    · simp [names]

/-- What withdrawing takes away, and what it puts back for those that have another way to an
ancestor. -/
theorem mem_descendants_withdraw {index : Index} {store : Store} {d : Definition}
    {ancestor oid : String} :
    oid ∈ (index.withdraw store d).descendants.row ancestor ↔
      (oid ∈ index.descendants.row ancestor ∧ ancestor ≠ d.oid.text) ∧
        ¬ (ancestor ∈ store.ancestors d.superiors ∧
          (oid = d.oid.text ∨ oid ∈ index.descendants.row d.oid.text)) ∨
      oid ∈ index.descendants.row d.oid.text ∧ ancestor ∈ store.ancestors d.superiors ∧
        store.contains ancestor = true ∧ TransGen store.Names oid ancestor := by
  unfold withdraw
  rw [Std.ExtTreeSet.foldl_eq_foldl_toList,
    foldl_gains (fun index : Index => oid ∈ index.descendants.row ancestor)
      (fun descendant => oid = descendant ∧ ancestor ∈ store.ancestors d.superiors ∧
        ∃ e, store.get? descendant = some e ∧ ancestor ∈ store.ancestors e.superiors)
      fun _ _ => mem_descendants_restore,
    Std.ExtTreeSet.foldl_eq_foldl_toList,
    foldl_loses (fun links : Links => oid ∈ links.row ancestor)
      (fun source => ancestor = source ∧
        oid ∈ (index.descendants.row d.oid.text).insert d.oid.text)
      fun _ _ => Links.mem_row_unlinkAll,
    Links.mem_row_eraseRow]
  have sources : (∃ source ∈ (store.ancestors d.superiors).toList, ancestor = source ∧
      oid ∈ (index.descendants.row d.oid.text).insert d.oid.text) ↔
      ancestor ∈ store.ancestors d.superiors ∧
        (oid = d.oid.text ∨ oid ∈ index.descendants.row d.oid.text) := by
    simp [eq_comm (a := d.oid.text)]
  have regained : (∃ descendant ∈ (index.descendants.row d.oid.text).toList, oid = descendant ∧
      ancestor ∈ store.ancestors d.superiors ∧
        ∃ e, store.get? descendant = some e ∧ ancestor ∈ store.ancestors e.superiors) ↔
      oid ∈ index.descendants.row d.oid.text ∧ ancestor ∈ store.ancestors d.superiors ∧
        store.contains ancestor = true ∧ TransGen store.Names oid ancestor := by
    rw [← Store.mem_ancestors_of_stored]
    simp
  rw [sources, regained]

theorem mem_waiting_withdraw {index : Index} {store : Store} {d : Definition}
    {superior oid : String} :
    oid ∈ (index.withdraw store d).waiting.row superior ↔
      oid ∈ index.waiting.row superior ∧ ¬ (superior ∈ d.superiors ∧ oid = d.oid.text) ∨
      oid ∈ index.descendants.row d.oid.text ∧ superior = d.oid.text ∧
        store.Names oid d.oid.text := by
  unfold withdraw
  rw [Std.ExtTreeSet.foldl_eq_foldl_toList,
    foldl_gains (fun index : Index => oid ∈ index.waiting.row superior)
      (fun descendant => oid = descendant ∧ superior = d.oid.text ∧
        store.Names descendant d.oid.text)
      fun _ _ => mem_waiting_restore,
    foldl_loses (fun links : Links => oid ∈ links.row superior)
      (fun source => superior = source ∧ oid = d.oid.text) fun _ _ => Links.mem_row_unlink]
  simp

/-- Withdrawing a definition turns the index into that of the store without it. -/
theorem withdraw_current {index : Index} {store after : Store} {d : Definition}
    (current : index.Current store) (stored : store.get? d.oid.text = some d)
    (definitions : after.definitions = store.definitions.erase d.oid.text) :
    (index.withdraw after d).Current after := by
  have gains := Store.gains_of_erase stored definitions
  have lookups := Store.get?_of_erase definitions
  have present := Store.contains_eq_true_iff.2 ⟨d, stored⟩
  have contains := Store.contains_of_erase definitions
  have silent : ∀ sup, ¬ after.Names d.oid.text sup := by
    rintro sup ⟨e, kept, _⟩
    simp [lookups] at kept
  refine ⟨fun {ancestor oid} => ?_, fun {superior oid} => ?_⟩
  · rw [mem_descendants_withdraw, current.descendants, current.descendants]
    constructor
    · rintro (⟨⟨⟨kept, chain⟩, other⟩, spared⟩ | ⟨_, _, regained⟩)
      · have kept := (contains ancestor).2 ⟨other, kept⟩
        -- a chain through the removed definition does not survive the scrubbing
        rcases (gains.transGen_iff oid ancestor).1 chain with old | ⟨toHub, fromHub⟩
        · exact ⟨kept, old⟩
        · refine absurd ⟨Store.mem_ancestors.2 ⟨kept, fromHub⟩, ?_⟩ spared
          rcases reflTransGen_iff_eq_or_transGen.1 toHub with same | chain
          · exact Or.inl same.symm
          · exact Or.inr ⟨present, TransGen.mono gains.le _ _ chain⟩
      · exact regained
    · rintro ⟨kept, chain⟩
      obtain ⟨other, before⟩ := (contains ancestor).1 kept
      by_cases scrubbed : ancestor ∈ after.ancestors d.superiors ∧
          (oid = d.oid.text ∨ store.contains d.oid.text = true ∧ TransGen store.Names oid d.oid.text)
      · refine Or.inr ⟨scrubbed.2.resolve_left ?_, scrubbed.1, kept, chain⟩
        rintro rfl
        obtain ⟨superior, edge, _⟩ := TransGen.head'_iff.1 chain
        exact silent superior edge
      · exact Or.inl ⟨⟨⟨before, TransGen.mono gains.le _ _ chain⟩, other⟩, scrubbed⟩
  · rw [mem_waiting_withdraw, current.waiting, current.descendants]
    have absent_after : after.contains superior = false ↔
        superior = d.oid.text ∨ store.contains superior = false := by
      rw [← Bool.not_eq_true, contains, not_and_or, not_not, Bool.not_eq_true]
    constructor
    · rintro (⟨⟨before, names⟩, spared⟩ | ⟨_, rfl, names⟩)
      · rcases (gains _ _).1 names with old | ⟨same, named⟩
        · exact ⟨absent_after.2 (Or.inr before), old⟩
        · exact absurd ⟨named, same⟩ spared
      · exact ⟨absent_after.2 (Or.inl rfl), names⟩
    · rintro ⟨still, names⟩
      rcases absent_after.1 still with rfl | before
      · exact Or.inr ⟨⟨present, .single (gains.le _ _ names)⟩, rfl, names⟩
      · refine Or.inl ⟨⟨before, gains.le _ _ names⟩, ?_⟩
        rintro ⟨_, rfl⟩
        exact silent superior names

end Index

end Subschema
