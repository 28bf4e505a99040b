import Subschema.Store

namespace Subschema

/-- A run of checks passes exactly if each of them does. -/
theorem forM_eq_ok_iff {ε β : Type} {check : β → Except ε Unit} {items : List β} :
    items.forM check = .ok () ↔ ∀ item ∈ items, check item = .ok () := by
  rw [List.forM_eq_forM]
  induction items with
  | nil => simp [pure, Except.pure]
  | cons item items ih =>
    rw [List.forM_cons, List.forall_mem_cons, ← ih]
    cases check item with
    | error e => simp [bind, Except.bind]
    | ok _ => simp [bind, Except.bind]

/-- The keys under which a definition is found. -/
def Definition.keys (d : Definition) : List String :=
  d.spellings.map nameKey

theorem Oid.eq_of_text {first second : Oid} (same : first.text = second.text) : first = second := by
  cases first
  cases second
  cases same
  rfl

namespace NameMap

theorem ext_bindings {first second : NameMap}
    (same : ∀ key : String, first.bindings[key]? = second.bindings[key]?) : first = second := by
  have bindings : first.bindings = second.bindings := Std.ExtTreeMap.ext_getElem? fun {key} => same key
  cases first
  cases second
  cases bindings
  rfl

/-- A name can be bound to an identifier unless it stands for another one. -/
theorem checkBindable_eq_ok_iff {names : NameMap} {name : String} {oid : Oid} :
    names.checkBindable name oid = .ok () ↔ ∀ other, names.get? name = some other → other = oid := by
  unfold checkBindable
  split
  · rename_i existing found
    split <;> simp_all
  · simp_all

theorem get?_insert {names : NameMap} {name other : String} {oid : Oid} :
    (⟨names.bindings.insert (nameKey name) oid⟩ : NameMap).get? other =
      if nameKey name = nameKey other then some oid else names.get? other := by
  simp only [get?, Std.ExtTreeMap.getElem?_insert, Std.LawfulEqCmp.compare_eq_iff_eq]

/-- Spellings that may all be bound to an identifier are all bound: none of the bindings stands in
the way of a later one. -/
theorem foldlM_bind {oid : Oid} {spellings : List String} {names : NameMap}
    (free : ∀ name ∈ spellings, names.checkBindable name oid = .ok ()) :
    ∃ bound, spellings.foldlM (fun names name => names.bind name oid) names = .ok bound ∧
      ∀ key, bound.bindings[key]? =
        if key ∈ spellings.map nameKey then some oid else names.bindings[key]? := by
  induction spellings generalizing names with
  | nil => exact ⟨names, rfl, by simp⟩
  | cons name rest ih =>
    have later : ∀ other ∈ rest,
        (⟨names.bindings.insert (nameKey name) oid⟩ : NameMap).checkBindable other oid = .ok () := by
      intro other member
      rw [checkBindable_eq_ok_iff]
      intro owner found
      rw [get?_insert] at found
      split at found
      · exact (Option.some.inj found).symm
      · exact checkBindable_eq_ok_iff.1 (free other (List.mem_cons_of_mem _ member)) owner found
    obtain ⟨bound, run, bindings⟩ := ih later
    refine ⟨bound, ?_, fun key => ?_⟩
    · have first : names.bind name oid = .ok ⟨names.bindings.insert (nameKey name) oid⟩ := by
        rw [bind, free name List.mem_cons_self]
      rw [List.foldlM_cons, first]
      exact run
    · rw [bindings, List.map_cons]
      simp only [Std.ExtTreeMap.getElem?_insert, Std.LawfulEqCmp.compare_eq_iff_eq, List.mem_cons]
      by_cases own : nameKey name = key
      · simp [own]
      · simp [own, Ne.symm own]

/-- Freeing spellings frees their keys and nothing else. -/
theorem bindings_foldl_unbind {spellings : List String} {names : NameMap} (key : String) :
    (spellings.foldl unbind names).bindings[key]? =
      if key ∈ spellings.map nameKey then none else names.bindings[key]? := by
  induction spellings generalizing names with
  | nil => simp
  | cons name rest ih =>
    rw [List.foldl_cons, ih, List.map_cons]
    simp only [unbind, Std.ExtTreeMap.getElem?_erase, Std.LawfulEqCmp.compare_eq_iff_eq,
      List.mem_cons]
    by_cases own : nameKey name = key
    · simp [own]
    · simp [own, Ne.symm own]

end NameMap

namespace Store

/-- Definitions are kept under their identifiers, and a key stands for an identifier exactly if the
definition stored there has the key. -/
structure Coherent (store : Store) : Prop where
  keyed : ∀ {oid d}, store.get? oid = some d → d.oid.text = oid
  named : ∀ {key oid}, store.names.bindings[key]? = some oid ↔
    ∃ d, store.get? oid.text = some d ∧ key ∈ d.keys

theorem coherent_empty : ({} : Store).Coherent :=
  ⟨by simp [get?], by simp [get?]⟩

theorem contains_eq_false_iff {store : Store} {oid : String} :
    store.contains oid = false ↔ store.get? oid = none := by
  rw [contains, Option.isSome_eq_false_iff, Option.isNone_iff_eq_none]

/-- What the check before storing looks at. -/
theorem checkRegistrable_eq_ok_iff {store : Store} {d : Definition} :
    store.checkRegistrable d = .ok () ↔ store.get? d.oid.text = none ∧
      ∀ name ∈ d.spellings, store.names.checkBindable name d.oid = .ok () := by
  rw [← contains_eq_false_iff, checkRegistrable]
  cases store.contains d.oid.text with
  | true => simp
  | false =>
    rw [if_neg Bool.false_ne_true, forM_eq_ok_iff]
    simp

/-- The check is all that it takes: a definition that passes it is stored. -/
theorem exists_register_iff {store : Store} {d : Definition} :
    (∃ after, store.register d = .ok after) ↔ store.checkRegistrable d = .ok () := by
  unfold register
  constructor
  · rintro ⟨after, run⟩
    split at run
    · simp at run
    · assumption
  · intro registrable
    obtain ⟨bound, binds, _⟩ :=
      NameMap.foldlM_bind (checkRegistrable_eq_ok_iff.1 registrable).2
    exact ⟨⟨bound, store.definitions.insert d.oid.text d⟩, by simp only [registrable, binds]⟩

/-- All that storing a definition does, and what it takes for it to be stored. -/
theorem register_cases {store after : Store} {d : Definition} (run : store.register d = .ok after) :
    store.get? d.oid.text = none ∧
      (∀ name ∈ d.spellings, store.names.checkBindable name d.oid = .ok ()) ∧
      after.definitions = store.definitions.insert d.oid.text d ∧
      ∀ key, after.names.bindings[key]? =
        if key ∈ d.keys then some d.oid else store.names.bindings[key]? := by
  have registrable := exists_register_iff.1 ⟨after, run⟩
  obtain ⟨absent, free⟩ := checkRegistrable_eq_ok_iff.1 registrable
  obtain ⟨bound, binds, bindings⟩ := NameMap.foldlM_bind free
  simp only [register, registrable, binds] at run
  cases Except.ok.inj run
  exact ⟨absent, free, rfl, bindings⟩

/-- All that removing a definition does. -/
theorem unregister_cases {store after : Store} {name : String} {d : Definition}
    (run : store.unregister name = .ok (d, after)) :
    ∃ oid, store.names.get? name = some oid ∧ store.get? oid.text = some d ∧
      after.definitions = store.definitions.erase oid.text ∧
      ∀ key, after.names.bindings[key]? =
        if key ∈ d.keys then none else store.names.bindings[key]? := by
  unfold unregister at run
  split at run
  · simp at run
  · rename_i oid found
    split at run
    · simp at run
    · rename_i held stored
      cases Except.ok.inj run
      exact ⟨oid, found, stored, rfl, NameMap.bindings_foldl_unbind⟩

theorem get?_of_insert {store after : Store} {oid : String} {d : Definition}
    (definitions : after.definitions = store.definitions.insert oid d) (other : String) :
    after.get? other = if other = oid then some d else store.get? other := by
  rw [get?, definitions, Std.ExtTreeMap.getElem?_insert, get?]
  simp only [Std.LawfulEqCmp.compare_eq_iff_eq, eq_comm (a := other)]

theorem get?_of_erase {store after : Store} {oid : String}
    (definitions : after.definitions = store.definitions.erase oid) (other : String) :
    after.get? other = if other = oid then none else store.get? other := by
  rw [get?, definitions, Std.ExtTreeMap.getElem?_erase, get?]
  simp only [Std.LawfulEqCmp.compare_eq_iff_eq, eq_comm (a := other)]

/-- In a coherent store the keys of a definition that may be stored stand for nothing. -/
theorem Coherent.unbound {store : Store} (coherent : store.Coherent) {d : Definition}
    (absent : store.get? d.oid.text = none)
    (free : ∀ name ∈ d.spellings, store.names.checkBindable name d.oid = .ok ()) {key : String}
    (own : key ∈ d.keys) : store.names.bindings[key]? = none := by
  obtain ⟨name, member, rfl⟩ := List.mem_map.1 own
  cases found : store.names.bindings[nameKey name]? with
  | none => rfl
  | some oid =>
    have same := NameMap.checkBindable_eq_ok_iff.1 (free name member) oid found
    obtain ⟨held, stored, _⟩ := coherent.named.1 found
    rw [same, absent] at stored
    simp at stored

/-- Storing keeps names and definitions in agreement. -/
theorem Coherent.register {store after : Store} (coherent : store.Coherent) {d : Definition}
    (run : store.register d = .ok after) : after.Coherent := by
  obtain ⟨absent, free, definitions, bindings⟩ := register_cases run
  have lookups := get?_of_insert definitions
  refine ⟨fun {oid held} stored => ?_, fun {key oid} => ?_⟩
  · rw [lookups] at stored
    split at stored
    · rename_i same
      cases Option.some.inj stored
      exact same.symm
    · exact coherent.keyed stored
  · rw [bindings, lookups]
    by_cases own : key ∈ d.keys
    · rw [if_pos own, Option.some_inj]
      constructor
      · rintro rfl
        exact ⟨d, if_pos rfl, own⟩
      · rintro ⟨held, stored, shared⟩
        split at stored
        · rename_i same
          exact (Oid.eq_of_text same).symm
        · have found := coherent.named.2 ⟨held, stored, shared⟩
          rw [coherent.unbound absent free own] at found
          simp at found
    · rw [if_neg own, coherent.named]
      by_cases same : oid.text = d.oid.text
      · simp [same, absent, own]
      · simp [same]

/-- Removing keeps names and definitions in agreement. -/
theorem Coherent.unregister {store after : Store} (coherent : store.Coherent) {name : String}
    {d : Definition} (run : store.unregister name = .ok (d, after)) : after.Coherent := by
  obtain ⟨oid, found, stored, definitions, bindings⟩ := unregister_cases run
  have lookups := get?_of_erase definitions
  refine ⟨fun {other held} kept => ?_, fun {key other} => ?_⟩
  · rw [lookups] at kept
    split at kept
    · simp at kept
    · exact coherent.keyed kept
  · rw [bindings, lookups]
    by_cases own : key ∈ d.keys
    · have bound := coherent.named.2 ⟨d, stored, own⟩
      rw [if_pos own]
      constructor
      · simp
      · rintro ⟨held, kept, shared⟩
        split at kept
        · simp at kept
        · rename_i differ
          have again := coherent.named.2 ⟨held, kept, shared⟩
          rw [bound] at again
          cases Option.some.inj again
          exact absurd rfl differ
    · rw [if_neg own, coherent.named]
      by_cases same : other.text = oid.text
      · simp [same, stored, own]
      · simp [same]

/-- A name stands for an identifier exactly if it leads to the definition stored there. -/
theorem Coherent.lookup_eq_ok_iff {store : Store} (coherent : store.Coherent) {name : String}
    {d : Definition} :
    store.lookup name = .ok d ↔ store.names.get? name = some d.oid ∧
      store.get? d.oid.text = some d := by
  unfold lookup NameMap.resolve
  cases found : store.names.get? name with
  | none => simp
  | some oid =>
    cases stored : store.get? oid.text with
    | none =>
      obtain ⟨held, kept, _⟩ := coherent.named.1 found
      rw [stored] at kept
      simp at kept
    | some held =>
      have same := Oid.eq_of_text (coherent.keyed stored)
      simp only [stored, Except.ok.injEq, Option.some_inj]
      constructor
      · rintro rfl
        exact ⟨same.symm, by rw [same, stored]⟩
      · rintro ⟨rfl, kept⟩
        exact Option.some.inj (stored.symm.trans kept)

end Store

end Subschema
