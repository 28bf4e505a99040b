import Subschema.Proofs.Extension
import Subschema.Proofs.Topological
import Subschema.Proofs.Naming

namespace Subschema

open Relation

namespace Store

theorem Coherent.map_oid_toList {store : Store} (coherent : store.Coherent) :
    store.toList.map (fun d => d.oid.text) = store.definitions.keys := by
  rw [toList, List.map_map, ← Std.ExtTreeMap.map_fst_toList_eq_keys]
  refine List.map_congr_left fun entry member => ?_
  exact coherent.keyed (Std.ExtTreeMap.mem_toList_iff_getElem?_eq_some.1 member)

/-- No identifier is listed twice. -/
theorem Coherent.nodup_toList {store : Store} (coherent : store.Coherent) :
    (store.toList.map fun d => d.oid.text).Nodup := by
  rw [coherent.map_oid_toList]
  exact Std.ExtTreeMap.nodup_keys

/-- Stores that hold the same definitions list the same ones. -/
theorem Coherent.perm_of_mem_iff {store other : Store} (coherent : store.Coherent) (also : other.Coherent)
    (same : ∀ d, d ∈ store.toList ↔ d ∈ other.toList) : store.toList.Perm other.toList :=
  (List.perm_ext_iff_of_nodup coherent.nodup_toList.of_map also.nodup_toList.of_map).2 same

/-- Definitions are listed in the order of their identifiers. -/
theorem Coherent.pairwise_toList {store : Store} (coherent : store.Coherent) :
    (store.toList.map fun d => d.oid.text).Pairwise (· < ·) := by
  rw [coherent.map_oid_toList]
  have keys := Std.ExtTreeMap.ordered_keys (t := store.definitions)
  exact keys.imp fun less => compareOfLessAndEq_eq_lt.1 less

end Store

namespace Registry

/-- An identifier stands for something exactly if a definition is stored under it. -/
theorem Reached.contains_oid {registry : Registry} (reached : registry.Reached) (oid : Oid) :
    registry.contains oid.text = registry.store.contains oid.text := by
  have bound := @Reached.get?_of_isNumericOid registry reached oid.text oid.numeric
  rw [contains, NameMap.contains]
  cases found : registry.store.names.get? oid.text with
  | some other => rw [((bound).1 found).2, Option.isSome_some]
  | none =>
    refine (Bool.eq_false_iff.2 fun stored => ?_).symm
    rw [bound.2 ⟨rfl, stored⟩] at found
    simp at found

/-- What the graph of a batch is made of. -/
abbrev gathered (registry : Registry) (batch : List Definition) : List Definition :=
  registry.store.toList ++ batch

/-- A batch of new identifiers makes none of those registered occur twice. -/
theorem Reached.nodup_gathered {registry : Registry} (reached : registry.Reached)
    {batch : List Definition} (apart : (batch.map fun d => d.oid.text).Nodup)
    (fresh : ∀ d ∈ batch, registry.store.get? d.oid.text = none) :
    ((registry.gathered batch).map fun d => d.oid.text).Nodup := by
  have coherent := reached.sound.coherent
  rw [gathered, List.map_append, List.nodup_append]
  refine ⟨coherent.nodup_toList, apart, fun oid old other new same => ?_⟩
  subst same
  obtain ⟨d, stored, rfl⟩ := List.mem_map.1 old
  obtain ⟨e, member, same⟩ := List.mem_map.1 new
  have absent := fresh e member
  rw [same, coherent.mem_toList.1 stored] at absent
  simp at absent

section Agreement

variable {registry after : Registry} {batch definitions : List Definition} (reached : registry.Reached)
  (last : after.Reached) (extension : after.Extends registry batch)
  (gathers : definitions.Perm (registry.gathered batch))

include reached last extension gathers

/-- A key belongs to the same identifier in the graph of the batch and in the registry that the batch
leaves. -/
theorem owner_iff {key sup : String} :
    (Hierarchy.owners definitions)[key]? = some sup ↔
      ∃ oid : Oid, oid.text = sup ∧ after.store.names.bindings[key]? = some oid := by
  have apart : (definitions.map fun d => d.oid.text).Nodup :=
    ((gathers.map _).nodup_iff).2 (reached.nodup_gathered extension.distinct extension.fresh)
  refine Hierarchy.owner_iff_bound apart fun {key oid} => ?_
  simp only [extension.named last, gathers.mem_iff, List.mem_append, or_and_right, exists_or]
  refine or_congr_left ?_
  rw [← reached.sound.coherent.named, reached.sound.coherent.binding_iff]

/-- Every edge of the graph is one between a definition and a superior that it is stored with. -/
theorem edge_gathered {sub sup : String}
    (edge : (Hierarchy.ofDefinitions definitions).Edge sub sup) : after.store.Names sub sup := by
  obtain ⟨d, member, rfl, superior, named, owner⟩ := Hierarchy.edge_ofDefinitions.1 edge
  obtain ⟨oid, rfl, bound⟩ := (owner_iff reached last extension gathers).1 owner
  rcases List.mem_append.1 (gathers.mem_iff.1 member) with old | new
  -- What is registered refers to identifiers only; the batch may refer to names.
  · have stored := extension.kept _ _ (reached.sound.coherent.mem_toList.1 old)
    have numeric := (last.canonical _ _ stored).numeric superior named
    have get : after.store.names.get? superior = some oid := bound
    rw [((last.get?_of_isNumericOid numeric).1 get).1]
    exact ⟨d, stored, named⟩
  · obtain ⟨superiors, resolved, stored⟩ := extension.added d new
    obtain ⟨found, reads, rfl⟩ := resolveSuperiors_eq_ok_iff.1 resolved
    obtain ⟨result, listed, run⟩ := exists_of_forall₂ reads named
    have same := (resolveSuperior_eq_ok_iff.1 run).eq_of_bound last stored rfl
      (extension.named_of_mem last new) bound
    exact ⟨_, stored, List.mem_eraseDups.2 (same ▸ listed)⟩

/-- There is no loop in the graph of a batch that goes in. -/
theorem acyclic_gathered : (Hierarchy.ofDefinitions definitions).Acyclic := by
  intro oid loop
  have chain := TransGen.mono (fun _ _ => edge_gathered reached last extension gathers) _ _ loop
  exact last.sound.acyclic oid chain

/-- A reference to something in the batch is an edge of the graph. -/
theorem edge_of_bound {d e : Definition} (member : d ∈ batch) {reference : String}
    (named : reference ∈ d.superiors)
    (bound : after.store.names.bindings[nameKey reference]? = some e.oid) :
    (Hierarchy.ofDefinitions definitions).Edge d.oid.text e.oid.text :=
  Hierarchy.edge_ofDefinitions.2 ⟨d, gathers.mem_iff.2 (List.mem_append_right _ member), rfl,
    reference, named, (owner_iff reached last extension gathers).2 ⟨e.oid, rfl, bound⟩⟩

/-- Once all superiors of a definition that are in the batch have been registered, every reference of
the definition stands for something: what does not lead to the batch was bound before, or waits. -/
theorem resolveSuperiors_of_superiors {before : List Definition} {mid : Registry}
    (between : mid.Extends registry before) (reachedMid : mid.Reached) {d : Definition}
    (member : d ∈ batch)
    (superiors : ∀ e ∈ batch,
      (Hierarchy.ofDefinitions definitions).Edge d.oid.text e.oid.text → e ∈ before) :
    ∃ found, mid.resolveSuperiors d = .ok found := by
  obtain ⟨result, resolved, _⟩ := extension.added d member
  refine exists_resolveSuperiors_iff.2 fun reference named => ?_
  obtain ⟨superior, resolves⟩ := exists_resolveSuperiors_iff.1 ⟨result, resolved⟩ reference named
  cases resolves with
  | own self => exact ⟨_, .own self⟩
  | @bound oid foreign found =>
    have known : mid.store.names.get? reference = some oid := by
      refine (between.named reachedMid).2 (((extension.named last).1 found).imp_right ?_)
      rintro ⟨e, new, rfl, own⟩
      exact ⟨e, superiors e new (edge_of_bound reached last extension gathers member named found), rfl, own⟩
    exact ⟨_, .bound foreign known⟩
  -- In the end the identifier is not registered, so it is not now; but it would do no harm.
  | waits foreign _ defers numeric =>
    have allowed : mid.policy = .defer := between.policy.trans (extension.policy.symm.trans defers)
    cases found : mid.store.names.get? reference with
    | some oid => exact ⟨_, .bound foreign found⟩
    | none => exact ⟨_, .waits foreign found allowed numeric⟩

end Agreement

end Registry

/-- What a load makes its graph of, whatever order it finds the registered definitions in. -/
theorem Listing.perm_append (listing : Listing) (registry : Registry) (batch : List Definition) :
    (listing.list registry ++ batch).Perm (registry.gathered batch) :=
  (listing.perm registry).append_right batch

namespace Bundle

/-- The check passes exactly if no identifier occurs twice or is registered. -/
theorem checkDistinct_eq_ok_iff {registry : Registry} {seen : TextSet} {batch : List Definition} :
    checkDistinct registry seen batch = .ok () ↔ (batch.map fun d => d.oid.text).Nodup ∧
      ∀ d ∈ batch, registry.contains d.oid.text = false ∧ d.oid.text ∉ seen := by
  induction batch generalizing seen with
  | nil => simp [checkDistinct]
  | cons d batch ih =>
    rw [checkDistinct, List.map_cons, List.nodup_cons, List.forall_mem_cons, List.mem_map]
    by_cases taken : registry.contains d.oid.text = true ∨ d.oid.text ∈ seen
    · have refused : (registry.contains d.oid.text || seen.contains d.oid.text) = true := by
        simpa using taken
      rw [if_pos refused]
      refine iff_of_false (by simp) fun passes => ?_
      rcases taken with stored | known
      · simp [stored] at passes
      · exact passes.2.1.2 known
    · obtain ⟨absent, fresh⟩ := not_or.1 taken
      have passes : ¬ (registry.contains d.oid.text || seen.contains d.oid.text) = true := by
        simpa using taken
      rw [if_neg passes, ih]
      simp only [TextSet.mem_insert_iff, not_or]
      constructor
      · rintro ⟨apart, rest⟩
        refine ⟨⟨?_, apart⟩, ⟨Bool.eq_false_iff.2 absent, fresh⟩, fun e member => ?_⟩
        · rintro ⟨e, member, same⟩
          exact (rest e member).2.1 same.symm
        · exact ⟨(rest e member).1, (rest e member).2.2⟩
      · rintro ⟨⟨own, apart⟩, _, rest⟩
        refine ⟨apart, fun e member => ⟨(rest e member).1, fun same => ?_, (rest e member).2⟩⟩
        exact own ⟨e, member, same.symm⟩

/-- The definitions of a batch by their identifiers. -/
def filed (batch : List Definition) : Std.ExtTreeMap String Definition :=
  batch.foldl (fun byOid d => byOid.insert d.oid.text d) ∅

theorem arrange_eq (batch : List Definition) (order : List String) :
    arrange batch order = order.filterMap fun oid => (filed batch)[oid]? := rfl

theorem getElem?_foldl_insert_of_ne {β : Type} {value : Definition → β} {batch : List Definition}
    {byOid : Std.ExtTreeMap String β} {oid : String} (other : ∀ d ∈ batch, d.oid.text ≠ oid) :
    (batch.foldl (fun byOid d => byOid.insert d.oid.text (value d)) byOid)[oid]? = byOid[oid]? := by
  induction batch generalizing byOid with
  | nil => rfl
  | cons d batch ih =>
    obtain ⟨first, rest⟩ := List.forall_mem_cons.1 other
    rw [List.foldl_cons, ih rest, Std.ExtTreeMap.getElem?_insert, if_neg]
    simpa using first

theorem getElem?_foldl_insert {β : Type} {value : Definition → β} {batch : List Definition}
    {byOid : Std.ExtTreeMap String β} (apart : (batch.map fun d => d.oid.text).Nodup) {d : Definition}
    (member : d ∈ batch) :
    (batch.foldl (fun byOid d => byOid.insert d.oid.text (value d)) byOid)[d.oid.text]? =
      some (value d) := by
  induction batch generalizing byOid with
  | nil => simp at member
  | cons first batch ih =>
    obtain ⟨own, apart⟩ := List.nodup_cons.1 apart
    rw [List.foldl_cons]
    rcases List.mem_cons.1 member with rfl | later
    · have other : ∀ e ∈ batch, e.oid.text ≠ d.oid.text :=
        fun e member same => own (List.mem_map.2 ⟨e, member, same⟩)
      rw [getElem?_foldl_insert_of_ne other, Std.ExtTreeMap.getElem?_insert_self]
    · exact ih apart later

/-- A definition is filed under its identifier. -/
theorem getElem?_filed {batch : List Definition} (apart : (batch.map fun d => d.oid.text).Nodup)
    {oid : String} {d : Definition} :
    (filed batch)[oid]? = some d ↔ d ∈ batch ∧ d.oid.text = oid := by
  constructor
  · intro found
    by_cases listed : ∃ e ∈ batch, e.oid.text = oid
    · obtain ⟨e, member, rfl⟩ := listed
      rw [filed, getElem?_foldl_insert apart member] at found
      rw [← Option.some.inj found]
      exact ⟨member, rfl⟩
    · rw [filed, getElem?_foldl_insert_of_ne fun e member same => listed ⟨e, member, same⟩] at found
      simp at found
  · rintro ⟨member, rfl⟩
    exact getElem?_foldl_insert apart member

/-- A batch is not changed by arranging it but for its order. -/
theorem arrange_perm {batch : List Definition} (apart : (batch.map fun d => d.oid.text).Nodup)
    {order : List String} (once : order.Nodup) (covers : ∀ d ∈ batch, d.oid.text ∈ order) :
    (arrange batch order).Perm batch := by
  rw [arrange_eq]
  refine (List.perm_ext_iff_of_nodup (once.filterMap ?_) apart.of_map).2 fun d => ?_
  · intro oid other d here there
    rw [← ((getElem?_filed apart).1 here).2, ← ((getElem?_filed apart).1 there).2]
  · rw [List.mem_filterMap]
    constructor
    · rintro ⟨oid, _, found⟩
      exact ((getElem?_filed apart).1 found).1
    · intro member
      exact ⟨d.oid.text, covers d member, (getElem?_filed apart).2 ⟨member, rfl⟩⟩

/-- What comes before a definition in an arranged batch is what the order puts before it. -/
theorem split_of_arrange {batch : List Definition} (apart : (batch.map fun d => d.oid.text).Nodup)
    {order : List String} {before rest : List Definition} {d : Definition}
    (split : arrange batch order = before ++ d :: rest) :
    ∃ earlier later, order = earlier ++ d.oid.text :: later ∧
      ∀ e ∈ batch, e.oid.text ∈ earlier → e ∈ before := by
  rw [arrange_eq] at split
  obtain ⟨front, back, whole, first, second⟩ := List.filterMap_eq_append_iff.1 split
  obtain ⟨idle, oid, later, rfl, nothing, found, _⟩ := List.filterMap_eq_cons_iff.1 second
  obtain ⟨_, rfl⟩ := (getElem?_filed apart).1 found
  refine ⟨front ++ idle, later, by rw [whole, List.append_assoc], fun e member earlier => ?_⟩
  have held : (filed batch)[e.oid.text]? = some e := (getElem?_filed apart).2 ⟨member, rfl⟩
  rcases List.mem_append.1 earlier with among | among
  · rw [← first]
    exact List.mem_filterMap.2 ⟨_, among, held⟩
  · rw [nothing _ among] at held
    simp at held

section Arranged

variable {registry : Registry} {batch definitions : List Definition}
  (gathers : definitions.Perm (registry.gathered batch))
  (apart : (batch.map fun d => d.oid.text).Nodup)

include gathers apart

/-- Arranging a batch bottom up leaves no definition out. -/
theorem arrange_bottomUp_perm :
    (arrange batch (bottomUp (Hierarchy.ofDefinitions definitions).superiors id
      (Hierarchy.ofDefinitions definitions).nodes)).Perm batch := by
  refine arrange_perm apart (bottomUp_nodup _) fun d member => ?_
  have node : ∃ e ∈ definitions, e.oid.text = d.oid.text :=
    ⟨d, gathers.mem_iff.2 (List.mem_append_right _ member), rfl⟩
  exact (mem_bottomUp Hierarchy.mem_nodes_of_mem_superiors).2
    (Hierarchy.mem_superiors_ofDefinitions.2 node)

/-- In a batch arranged bottom up a definition comes after those of its superiors that are in the batch. -/
theorem arrange_bottomUp_sorted (acyclic : (Hierarchy.ofDefinitions definitions).Acyclic)
    {before rest : List Definition} {d : Definition}
    (split : arrange batch (bottomUp (Hierarchy.ofDefinitions definitions).superiors id
      (Hierarchy.ofDefinitions definitions).nodes) = before ++ d :: rest) :
    ∀ e ∈ batch, (Hierarchy.ofDefinitions definitions).Edge d.oid.text e.oid.text → e ∈ before := by
  intro e new edge
  obtain ⟨earlier, later, whole, precedes⟩ := split_of_arrange apart split
  refine precedes e new (bottomUp_sorted acyclic whole edge ?_)
  exact Hierarchy.mem_superiors_ofDefinitions.2
    ⟨e, gathers.mem_iff.2 (List.mem_append_right _ new), rfl⟩

end Arranged

theorem registerBatch_eq_ok_iff_arrange {listing : Listing} {registry after : Registry}
    (reached : registry.Reached) {batch : List Definition} :
    registerBatch listing registry batch = .ok after ↔
      ((batch.map fun d => d.oid.text).Nodup ∧
        ∀ d ∈ batch, registry.store.get? d.oid.text = none) ∧
      ∃ order, (Hierarchy.ofDefinitions (listing.list registry ++ batch)).superiorsFirst = .ok order ∧
        registerAll registry (arrange batch order) = .ok after := by
  have checks : checkDistinct registry ∅ batch = .ok () ↔
      (batch.map fun d => d.oid.text).Nodup ∧
        ∀ d ∈ batch, registry.store.get? d.oid.text = none := by
    rw [checkDistinct_eq_ok_iff]
    simp [reached.contains_oid, Store.contains_eq_false_iff]
  rw [← checks]
  unfold registerBatch
  constructor
  · intro run
    obtain ⟨_, passes, run⟩ := bind_eq_ok_iff.1 run
    obtain ⟨order, sorted, run⟩ := bind_eq_ok_iff.1 run
    exact ⟨passes, order, sorted, run⟩
  · rintro ⟨passes, order, sorted, run⟩
    exact bind_eq_ok_iff.2 ⟨(), passes, bind_eq_ok_iff.2 ⟨order, sorted, run⟩⟩

/-- A batch goes in exactly if there is an order in which its definitions can be registered one after
the other, and the registry is then the one that this leaves. In which order the registered ones are
listed does not matter, though the batch may go in in another one for it. -/
theorem registerBatch_eq_ok_iff (listing : Listing) {registry after : Registry}
    (reached : registry.Reached) {batch : List Definition} :
    registerBatch listing registry batch = .ok after ↔
      ∃ order, order.Perm batch ∧ registerAll registry order = .ok after := by
  have gathers := listing.perm_append registry batch
  rw [registerBatch_eq_ok_iff_arrange reached]
  constructor
  · rintro ⟨⟨apart, _⟩, order, sorted, run⟩
    obtain ⟨_, rfl⟩ := Hierarchy.superiorsFirst_ofDefinitions.1 sorted
    exact ⟨_, arrange_bottomUp_perm gathers apart, run⟩
  · rintro ⟨order, same, run⟩
    -- What the given order leads to is what the batch leads to in any order, this one included.
    obtain ⟨last, extension⟩ := extends_of_registerAll reached run
    have extension := extension.perm same
    have apart := extension.distinct
    have acyclic := Registry.acyclic_gathered reached last extension gathers
    refine ⟨⟨apart, extension.fresh⟩, _,
      Hierarchy.superiorsFirst_ofDefinitions.2 ⟨acyclic, rfl⟩, ?_⟩
    have arranged := arrange_bottomUp_perm gathers apart
    refine registerAll_of_extends reached last (extension.perm arranged.symm) ?_
    intro before d rest split mid reachedMid between
    have member : d ∈ batch := arranged.mem_iff.1 (by rw [split]; simp)
    exact Registry.resolveSuperiors_of_superiors reached last extension gathers between reachedMid
      member (arrange_bottomUp_sorted gathers apart acyclic split)

end Bundle

end Subschema
