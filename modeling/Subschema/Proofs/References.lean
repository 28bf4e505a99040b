import Subschema.Proofs.Canonical

namespace Subschema

namespace Registry

/-- What a superior reference of a definition stands for: the definition itself if it names that, else
what is registered under it, else an identifier that has to wait. -/
inductive Resolves (registry : Registry) (d : Definition) (reference : String) : String → Prop
  | own : d.hasName reference = true → Resolves registry d reference d.oid.text
  | bound {oid : Oid} : d.hasName reference = false →
      registry.store.names.get? reference = some oid → Resolves registry d reference oid.text
  | waits : d.hasName reference = false → registry.store.names.get? reference = none →
      registry.policy = .defer → isNumericOid (Text.trim reference).toList = true →
      Resolves registry d reference (Text.trim reference)

theorem resolveSuperior_eq_ok_iff {registry : Registry} {d : Definition}
    {reference superior : String} :
    registry.resolveSuperior d reference = .ok superior ↔
      registry.Resolves d reference superior := by
  unfold resolveSuperior NameMap.resolve
  simp only [Definition.hasName_trim, NameMap.get?_trim]
  constructor
  · intro run
    cases self : d.hasName reference with
    | true =>
      rw [self, if_pos rfl] at run
      cases Except.ok.inj run
      exact .own self
    | false =>
      rw [self, if_neg Bool.false_ne_true] at run
      cases found : registry.store.names.get? reference with
      | some oid =>
        rw [found] at run
        cases Except.ok.inj run
        exact .bound self found
      | none =>
        rw [found] at run
        simp only at run
        split at run
        · rename_i allowed
          cases Except.ok.inj run
          exact .waits self found allowed.1 allowed.2
        · simp at run
  · intro resolves
    cases resolves with
    | own self => rw [if_pos self]
    | bound foreign found => rw [if_neg (by simp [foreign]), found]
    | waits foreign free defers numeric =>
      rw [if_neg (by simp [foreign]), free]
      exact if_pos ⟨defers, numeric⟩

/-- The superiors of a definition can be resolved exactly if each of them stands for something. -/
theorem exists_resolveSuperiors_iff {registry : Registry} {d : Definition} :
    (∃ superiors, registry.resolveSuperiors d = .ok superiors) ↔
      ∀ reference ∈ d.superiors, ∃ superior, registry.Resolves d reference superior := by
  constructor
  · rintro ⟨superiors, resolved⟩ reference member
    obtain ⟨found, reads, _⟩ := resolveSuperiors_eq_ok_iff.1 resolved
    obtain ⟨superior, _, run⟩ := exists_of_forall₂ reads member
    exact ⟨superior, resolveSuperior_eq_ok_iff.1 run⟩
  · intro each
    obtain ⟨found, resolves⟩ := exists_forall₂ each
    exact ⟨_, resolveSuperiors_eq_ok_iff.2
      ⟨found, resolves.imp fun _ _ => resolveSuperior_eq_ok_iff.2, rfl⟩⟩

/-- A reference that stands for something stands for the same when more is registered. One that had to
wait may be registered by then, under itself. -/
theorem Resolves.mono {registry after : Registry} (last : after.Reached)
    (policy : after.policy = registry.policy)
    (kept : ∀ name oid, registry.store.names.get? name = some oid →
      after.store.names.get? name = some oid)
    {d : Definition} {reference superior : String}
    (resolves : registry.Resolves d reference superior) :
    after.Resolves d reference superior := by
  cases resolves with
  | own self => exact .own self
  | bound foreign found => exact .bound foreign (kept _ _ found)
  | waits foreign free defers numeric =>
    cases found : after.store.names.get? reference with
    | none => exact .waits foreign found (policy.trans defers) numeric
    | some oid =>
      have trimmed := found
      rw [← NameMap.get?_trim, last.get?_of_isNumericOid numeric] at trimmed
      rw [← trimmed.1]
      exact .bound foreign found

/-- What the superiors of a definition stand for stays the same when more is registered. -/
theorem resolveSuperiors_mono {registry after : Registry} (last : after.Reached)
    (policy : after.policy = registry.policy)
    (kept : ∀ name oid, registry.store.names.get? name = some oid →
      after.store.names.get? name = some oid)
    {d : Definition} {superiors : List String}
    (run : registry.resolveSuperiors d = .ok superiors) :
    after.resolveSuperiors d = .ok superiors := by
  obtain ⟨found, reads, rfl⟩ := resolveSuperiors_eq_ok_iff.1 run
  refine resolveSuperiors_eq_ok_iff.2 ⟨found, reads.imp fun reference superior run => ?_, rfl⟩
  exact resolveSuperior_eq_ok_iff.2 ((resolveSuperior_eq_ok_iff.1 run).mono last policy kept)

/-- Names alone decide what superiors stand for. -/
theorem resolveSuperiors_congr {first second : Registry} (policy : first.policy = second.policy)
    (names : first.store.names = second.store.names) (d : Definition) :
    first.resolveSuperiors d = second.resolveSuperiors d := by
  have one : first.resolveSuperior d = second.resolveSuperior d := by
    funext reference
    unfold resolveSuperior
    rw [policy, names]
  rw [resolveSuperiors, resolveSuperiors, one]

/-- A reference whose key is bound stands for the identifier that it is bound to, also where it names
the definition itself. -/
theorem Resolves.eq_of_bound {registry : Registry} (reached : registry.Reached)
    {d stored : Definition} (held : registry.store.get? d.oid.text = some stored)
    (keys : stored.keys = d.keys) (named : ∀ name ∈ d.names, checkName name = .ok ())
    {reference superior : String} {oid : Oid}
    (bound : registry.store.names.get? reference = some oid)
    (resolves : registry.Resolves d reference superior) : superior = oid.text := by
  cases resolves with
  | own self =>
    have shared := Definition.mem_keys_of_hasName named self
    rw [← keys] at shared
    have again := reached.sound.coherent.named.2 ⟨stored, held, shared⟩
    rw [← NameMap.get?, bound] at again
    rw [Option.some.inj again]
  | bound _ found => rw [Option.some.inj (found.symm.trans bound)]
  | waits _ free =>
    rw [free] at bound
    simp at bound

/-- Where superiors may wait, identifiers stand for themselves. -/
theorem Reached.resolveSuperiors_of_defer {registry : Registry} (reached : registry.Reached)
    (defers : registry.policy = .defer) {d : Definition}
    (named : ∀ name ∈ d.names, checkName name = .ok ())
    (numeric : ∀ superior ∈ d.superiors, isNumericOid (Text.trim superior).toList = true) :
    registry.resolveSuperiors d = .ok (d.superiors.map Text.trim).eraseDups := by
  refine resolveSuperiors_eq_ok_iff.2 ⟨_, ?_, rfl⟩
  rw [List.forall₂_map_right_iff, List.forall₂_same]
  intro superior member
  rw [reached.resolveSuperior_of_isNumericOid named (numeric superior member), if_pos]
  exact Or.inr (Or.inr defers)

end Registry

end Subschema
