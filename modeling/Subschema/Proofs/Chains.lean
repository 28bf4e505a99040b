import Mathlib.Logic.Relation

namespace Subschema

open Relation

variable {α : Type}

/-- One relation has the edges of another, and edges from a hub to given places. -/
def Gains (small large : α → α → Prop) (hub : α) (out : α → Prop) : Prop :=
  ∀ source target, large source target ↔ small source target ∨ source = hub ∧ out target

/-- The larger relation has all edges of the smaller one. -/
theorem Gains.le {small large : α → α → Prop} {hub : α} {out : α → Prop}
    (gains : Gains small large hub out) : small ≤ large :=
  fun source target edge => (gains source target).2 (Or.inl edge)

theorem Gains.new {small large : α → α → Prop} {hub : α} {out : α → Prop}
    (gains : Gains small large hub out) {target : α} (leaves : out target) : large hub target :=
  (gains hub target).2 (Or.inr ⟨rfl, leaves⟩)

/-- What the new edges lead to can be reached without using a new edge again. -/
theorem Gains.after_hub {small large : α → α → Prop} {hub : α} {out : α → Prop}
    (gains : Gains small large hub out) (last : α) :
    (∃ first, out first ∧ ReflTransGen large first last) ↔
      ∃ first, out first ∧ ReflTransGen small first last := by
  constructor
  · rintro ⟨first, leaves, chain⟩
    induction chain with
    | refl => exact ⟨first, leaves, .refl⟩
    | tail _ edge ih =>
      rcases (gains _ _).1 edge with old | ⟨rfl, again⟩
      · obtain ⟨start, leaves, chain⟩ := ih
        exact ⟨start, leaves, chain.tail old⟩
      · exact ⟨_, again, .refl⟩
  · rintro ⟨first, leaves, chain⟩
    exact ⟨first, leaves, ReflTransGen.mono gains.le _ _ chain⟩

/-- A chain of the larger relation either uses no new edge, or it comes to the hub and leaves it for
the last time, using no new edge before or after. -/
theorem Gains.transGen_iff {small large : α → α → Prop} {hub : α} {out : α → Prop}
    (gains : Gains small large hub out) (first last : α) :
    TransGen large first last ↔ TransGen small first last ∨
      ReflTransGen small first hub ∧ ∃ start, out start ∧ ReflTransGen small start last := by
  constructor
  · intro chain
    induction chain with
    | single edge =>
      rcases (gains _ _).1 edge with old | ⟨rfl, leaves⟩
      · exact Or.inl (.single old)
      · exact Or.inr ⟨.refl, _, leaves, .refl⟩
    | tail _ edge ih =>
      rcases (gains _ _).1 edge with old | ⟨rfl, leaves⟩
      · rcases ih with chain | ⟨toHub, start, leaves, chain⟩
        · exact Or.inl (chain.tail old)
        · exact Or.inr ⟨toHub, start, leaves, chain.tail old⟩
      · rcases ih with chain | ⟨toHub, _⟩
        · exact Or.inr ⟨chain.to_reflTransGen, _, leaves, .refl⟩
        · exact Or.inr ⟨toHub, _, leaves, .refl⟩
  · rintro (chain | ⟨toHub, start, leaves, chain⟩)
    · exact TransGen.mono gains.le _ _ chain
    · have fromHub := TransGen.head' (gains.new leaves) (ReflTransGen.mono gains.le _ _ chain)
      exact fromHub.trans_right (ReflTransGen.mono gains.le _ _ toHub)

end Subschema
