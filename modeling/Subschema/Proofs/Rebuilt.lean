import Subschema.Proofs.Sound

namespace Subschema

/-- A store and the index that is kept beside it, without the checks that a registry makes. -/
structure Indexed where
  store : Store := {}
  index : Index := {}

namespace Indexed

/-- Stores a definition and enters it into the index. A refused one changes neither. -/
def add (pair : Indexed) (d : Definition) : Indexed :=
  match pair.store.register d with
  | .ok store => ⟨store, pair.index.enter store d⟩
  | .error _ => pair

/-- Removes what a name stands for and withdraws it from the index. An unknown name changes
neither. -/
def remove (pair : Indexed) (name : String) : Indexed :=
  match pair.store.unregister name with
  | .ok (d, store) => ⟨store, pair.index.withdraw store d⟩
  | .error _ => pair

/-- The pairs that come about from the empty one. -/
inductive Reached : Indexed → Prop
  | empty : Reached {}
  | add {pair : Indexed} (d : Definition) : Reached pair → Reached (pair.add d)
  | remove {pair : Indexed} (name : String) : Reached pair → Reached (pair.remove name)

/-- An index that is kept up is current at all times, loops and dangling superiors included. -/
theorem Reached.current {pair : Indexed} (reached : pair.Reached) :
    pair.store.Coherent ∧ pair.index.Current pair.store := by
  induction reached with
  | empty => exact ⟨Store.coherent_empty, Index.rebuild_current Store.coherent_empty⟩
  | @add pair d _ ih =>
    obtain ⟨coherent, current⟩ := ih
    unfold Indexed.add
    split
    · rename_i store run
      obtain ⟨absent, _, definitions, _⟩ := Store.register_cases run
      exact ⟨coherent.register run, Index.enter_current current absent definitions⟩
    · exact ⟨coherent, current⟩
  | @remove pair name _ ih =>
    obtain ⟨coherent, current⟩ := ih
    unfold Indexed.remove
    split
    · rename_i d store run
      obtain ⟨oid, _, stored, definitions, _⟩ := Store.unregister_cases run
      obtain rfl := Oid.eq_of_text (coherent.keyed stored)
      exact ⟨coherent.unregister run, Index.withdraw_current current stored definitions⟩
    · exact ⟨coherent, current⟩

end Indexed

/-- No row of a relation is kept once it is empty. -/
def Links.Pruned (links : Links) : Prop :=
  ∀ source : String, links.rows[source]? ≠ some ∅

theorem Links.pruned (links : Links) : links.Pruned := by
  intro source found
  have filled := links.rows_nonempty source ∅ found
  simp at filled

/-- The incremental index is the rebuilt one after every history of a store, and after every history
of a registry, copies included. -/
theorem index_eq_rebuild :
    (∀ pair : Indexed, pair.Reached → pair.index = .rebuild pair.store ∧
      pair.index.descendants.Pruned ∧ pair.index.waiting.Pruned) ∧
    ∀ registry : Registry, registry.Reached → registry.verifyIndex = true := by
  refine ⟨fun pair reached => ?_, fun registry reached => ?_⟩
  · obtain ⟨coherent, current⟩ := reached.current
    exact ⟨current.unique (Index.rebuild_current coherent), Links.pruned _, Links.pruned _⟩
  · have sound := reached.sound
    rw [Registry.verifyIndex, decide_eq_true_eq]
    exact sound.current.unique (Index.rebuild_current sound.coherent)

/-- Two definitions that inherit from themselves and each other, one of them removed again. -/
theorem index_eq_rebuild_loop :
    let first : Definition := { oid := ⟨"1.1", by decide⟩, kind := .objectClass,
                                superiors := ["1.1", "1.2", "nothing", "1.2"] }
    let second : Definition := { oid := ⟨"1.2", by decide⟩, kind := .objectClass,
                                 superiors := ["1.1", "1.9"] }
    let pair := (((({} : Indexed).add second).add first).add second).remove "1.1"
    let registry := (({ kind := .objectClass } : Registry).after (.register second)).after .copy
    pair.index = .rebuild pair.store ∧ registry.verifyIndex = true :=
  ⟨(index_eq_rebuild.1 _ (.remove _ (.add _ (.add _ (.add _ .empty))))).1,
    index_eq_rebuild.2 _ (.next _ (.next _ (.empty _ _)))⟩

end Subschema
