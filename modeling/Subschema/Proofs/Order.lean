import Subschema.Proofs.Queries

namespace Subschema

open Relation

namespace Registry

theorem Inherits.trans {registry : Registry} {low mid high : Definition}
    (lower : registry.Inherits low mid) (upper : registry.Inherits mid high) :
    registry.Inherits low high :=
  ⟨lower.1, TransGen.trans lower.2 upper.2⟩

/-- Nothing inherits from itself. The check was made when a definition was registered, and it counts
edges to superiors that were not there. -/
theorem Sound.not_inherits_self {registry : Registry} (sound : registry.Sound) (d : Definition) :
    ¬ registry.Inherits d d :=
  fun inherits => sound.acyclic d.oid.text inherits.2

/-- The registry answers that a definition is below another one exactly if it inherits from it. -/
theorem Sound.isDescendantOf_eq_true_iff {registry : Registry} (sound : registry.Sound)
    {subtype supertype : String} :
    registry.isDescendantOf subtype supertype = .ok true ↔
      ∃ sub sup, registry.lookup subtype = .ok sub ∧ registry.lookup supertype = .ok sup ∧
        registry.Inherits sub sup := by
  constructor
  · intro asked
    have known : registry.contains subtype = true := by
      rw [← Bool.not_eq_false]
      intro unknown
      have fails : registry.isDescendantOf subtype supertype = .error _ :=
        isDescendantOf_eq_error_iff.2 (Or.inl ⟨unknown, rfl⟩)
      simp [asked] at fails
    have knownSup : registry.contains supertype = true := by
      rw [← Bool.not_eq_false]
      intro unknown
      have fails := isDescendantOf_eq_error_iff.2 (Or.inr ⟨known, unknown, rfl⟩)
      simp [asked] at fails
    obtain ⟨sub, leads, _⟩ := sound.contains_eq_true_iff.1 known
    obtain ⟨sup, above, _⟩ := sound.contains_eq_true_iff.1 knownSup
    obtain ⟨answer, again, means⟩ := sound.isDescendantOf_spec leads above
    have yes : answer = true := Except.ok.inj (again.symm.trans asked)
    exact ⟨sub, sup, leads, above, means.1 yes⟩
  · rintro ⟨sub, sup, leads, above, inherits⟩
    obtain ⟨answer, asked, means⟩ := sound.isDescendantOf_spec leads above
    rw [asked, means.2 inherits]

theorem Sound.isDescendantOf_eq_false {registry : Registry} (sound : registry.Sound)
    {subtype supertype : String} {sub sup : Definition} (leads : registry.lookup subtype = .ok sub)
    (above : registry.lookup supertype = .ok sup) (apart : ¬ registry.Inherits sub sup) :
    registry.isDescendantOf subtype supertype = .ok false := by
  obtain ⟨answer, asked, means⟩ := sound.isDescendantOf_spec leads above
  rw [asked, Bool.eq_false_iff.2 fun yes => apart (means.1 yes)]

/-- Whatever calls have led to a registry, under either policy: the superiors of its definitions,
registered or not, form no loop, and `isDescendantOf` is irreflexive, transitive and asymmetric on
what names stand for. -/
theorem Reached.strict_order {registry : Registry} (reached : registry.Reached) :
    (∀ oid, ¬ TransGen registry.store.Names oid oid) ∧
    (∀ name other d, registry.lookup name = .ok d → registry.lookup other = .ok d →
      registry.isDescendantOf name other = .ok false) ∧
    (∀ low mid other high d, registry.lookup mid = .ok d → registry.lookup other = .ok d →
      registry.isDescendantOf low mid = .ok true → registry.isDescendantOf other high = .ok true →
      registry.isDescendantOf low high = .ok true) ∧
    ∀ low high, registry.isDescendantOf low high = .ok true →
      registry.isDescendantOf high low = .ok false := by
  have sound := reached.sound
  refine ⟨sound.acyclic, fun name other d leads again => ?_,
    fun low mid other high d leads again lower upper => ?_, fun low high below => ?_⟩
  · exact sound.isDescendantOf_eq_false leads again (sound.not_inherits_self d)
  · obtain ⟨sub, first, foundLow, foundMid, inherits⟩ := sound.isDescendantOf_eq_true_iff.1 lower
    obtain ⟨second, sup, foundOther, foundHigh, above⟩ := sound.isDescendantOf_eq_true_iff.1 upper
    cases Except.ok.inj (leads.symm.trans foundMid)
    cases Except.ok.inj (again.symm.trans foundOther)
    exact sound.isDescendantOf_eq_true_iff.2 ⟨sub, sup, foundLow, foundHigh, inherits.trans above⟩
  · obtain ⟨sub, sup, foundLow, foundHigh, inherits⟩ := sound.isDescendantOf_eq_true_iff.1 below
    exact sound.isDescendantOf_eq_false foundHigh foundLow fun back =>
      sound.not_inherits_self sub (inherits.trans back)

/-- Two definitions, one of them above the other. -/
theorem Reached.strict_order_sample :
    Sample.full.isDescendantOf "person" "top" = .ok true ∧
      Sample.full.isDescendantOf "TOP" "Person" = .ok false := by
  have inherits : Sample.full.Inherits Sample.person Sample.top :=
    ⟨by decide +kernel, .single ⟨Sample.person, by decide +kernel, by decide⟩⟩
  have below : ∀ low high, Sample.full.lookup low = .ok Sample.person →
      Sample.full.lookup high = .ok Sample.top → Sample.full.isDescendantOf low high = .ok true :=
    fun _ _ leads above => Sample.full_reached.sound.isDescendantOf_eq_true_iff.2
      ⟨_, _, leads, above, inherits⟩
  obtain ⟨_, _, _, asymmetric⟩ := strict_order Sample.full_reached
  exact ⟨below _ _ (by decide +kernel) (by decide +kernel),
    asymmetric _ _ (below _ _ (by decide +kernel) (by decide +kernel))⟩

end Registry

end Subschema
