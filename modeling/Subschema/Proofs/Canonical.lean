import Mathlib.Data.List.Forall2
import Subschema.Proofs.Sound
import Subschema.Proofs.Spelling

namespace Subschema

theorem nodup_eraseDups {α : Type} [BEq α] [LawfulBEq α] (items : List α) :
    items.eraseDups.Nodup := by
  cases items with
  | nil => simp
  | cons item items =>
    rw [List.eraseDups_cons, List.nodup_cons, List.mem_eraseDups]
    exact ⟨by simp, nodup_eraseDups (items.filter fun other => !other == item)⟩
termination_by items.length
decreasing_by exact Nat.lt_succ_of_le (List.length_filter_le _ _)

theorem eraseDups_of_nodup {α : Type} [BEq α] [LawfulBEq α] {items : List α}
    (distinct : items.Nodup) : items.eraseDups = items := by
  induction items with
  | nil => simp
  | cons item items ih =>
    obtain ⟨fresh, distinct⟩ := List.nodup_cons.1 distinct
    have kept : items.filter (fun other => !other == item) = items := by
      refine List.filter_eq_self.2 fun other member => ?_
      have differ : other ≠ item := fun same => fresh (same ▸ member)
      simp [differ]
    rw [List.eraseDups_cons, kept, ih distinct]

/-- Reading a list succeeds exactly if reading each of its items does. -/
theorem mapM_eq_ok_iff {ε β γ : Type} {read : β → Except ε γ} {items : List β}
    {results : List γ} :
    items.mapM read = .ok results ↔
      List.Forall₂ (fun item result => read item = .ok result) items results := by
  induction items generalizing results with
  | nil =>
    rw [List.mapM_nil, List.forall₂_nil_left_iff]
    exact ⟨fun run => (Except.ok.inj run).symm, fun none => congrArg Except.ok none.symm⟩
  | cons item items ih =>
    rw [List.mapM_cons, bind_eq_ok_iff, List.forall₂_cons_left_iff]
    constructor
    · rintro ⟨result, first, run⟩
      obtain ⟨rest, later, run⟩ := bind_eq_ok_iff.1 run
      exact ⟨result, rest, first, ih.1 later, (Except.ok.inj run).symm⟩
    · rintro ⟨result, rest, first, later, rfl⟩
      exact ⟨result, first, bind_eq_ok_iff.2 ⟨rest, ih.2 later, rfl⟩⟩

/-- What is paired with an item. -/
theorem exists_of_forall₂ {β γ : Type} {related : β → γ → Prop} {items : List β} {results : List γ}
    (pairs : List.Forall₂ related items results) {item : β} (member : item ∈ items) :
    ∃ result ∈ results, related item result := by
  induction pairs with
  | nil => simp at member
  | @cons first result items results here _ ih =>
    rcases List.mem_cons.1 member with rfl | later
    · exact ⟨result, List.mem_cons_self, here⟩
    · obtain ⟨other, among, there⟩ := ih later
      exact ⟨other, List.mem_cons_of_mem _ among, there⟩

theorem exists_forall₂ {β γ : Type} {related : β → γ → Prop} {items : List β}
    (each : ∀ item ∈ items, ∃ result, related item result) :
    ∃ results, List.Forall₂ related items results := by
  induction items with
  | nil => exact ⟨[], .nil⟩
  | cons item items ih =>
    obtain ⟨⟨result, here⟩, rest⟩ := List.forall_mem_cons.1 each
    obtain ⟨results, there⟩ := ih rest
    exact ⟨result :: results, .cons here there⟩

/-- A definition as a registry of a kind keeps it. -/
structure Definition.Canonical (d : Definition) (kind : Kind) : Prop where
  fits : d.kind = kind
  named : ∀ name ∈ d.names, checkName name = .ok ()
  numeric : ∀ superior ∈ d.superiors, isNumericOid superior.toList = true
  distinct : d.superiors.Nodup

namespace Registry

/-- Superiors are resolved one by one, and then each is kept once. -/
theorem resolveSuperiors_eq_ok_iff {registry : Registry} {d : Definition}
    {superiors : List String} :
    registry.resolveSuperiors d = .ok superiors ↔
      ∃ found, List.Forall₂ (fun reference oid => registry.resolveSuperior d reference = .ok oid)
        d.superiors found ∧ superiors = found.eraseDups := by
  unfold resolveSuperiors
  simp only [← mapM_eq_ok_iff]
  cases d.superiors.mapM (registry.resolveSuperior d) with
  | error e => simp [Except.map]
  | ok found => simp [Except.map, eq_comm]

/-- What passes the checks is in the form in which registries keep definitions. -/
theorem canonical_of_prepare {registry : Registry} {d stored : Definition}
    (passes : registry.prepare d = .ok stored) : stored.Canonical registry.kind := by
  obtain ⟨fits, named, _, superiors, resolved, _, rfl⟩ := prepare_eq_ok_iff.1 passes
  refine ⟨fits, named, resolveSuperiors_numeric resolved, ?_⟩
  obtain ⟨found, _, rfl⟩ := resolveSuperiors_eq_ok_iff.1 resolved
  exact nodup_eraseDups found

/-- Everything is kept in canonical form. -/
def Canonical (registry : Registry) : Prop :=
  ∀ oid d, registry.store.get? oid = some d → d.Canonical registry.kind

theorem Canonical.after {registry : Registry} (canonical : registry.Canonical) (call : Call) :
    (registry.after call).Canonical := by
  unfold Registry.after
  split
  · rename_i d
    split
    · rename_i stored after run
      obtain ⟨passes, store, stores, rfl⟩ := register_eq_ok_iff.1 run
      obtain ⟨_, _, definitions, _⟩ := Store.register_cases stores
      have form := canonical_of_prepare passes
      intro oid held found
      rw [Store.get?_of_insert definitions] at found
      split at found
      · cases Option.some.inj found
        exact form
      · exact canonical oid held found
    · exact canonical
  · split
    · rename_i d after run
      obtain ⟨store, removes, rfl⟩ := unregister_eq_ok_iff.1 run
      obtain ⟨_, _, _, definitions, _⟩ := Store.unregister_cases removes
      intro oid held found
      rw [Store.get?_of_erase definitions] at found
      split at found
      · simp at found
      · exact canonical oid held found
    · exact canonical
  · exact canonical

/-- All that a registry keeps is in this form, whatever calls have led to it. -/
theorem Reached.canonical {registry : Registry} (reached : registry.Reached) :
    registry.Canonical := by
  induction reached with
  | empty kind policy =>
    intro oid d found
    simp [Store.get?] at found
  | next call _ ih => exact ih.after call

/-- An identifier stands for nothing but what is registered under it. -/
theorem Reached.get?_of_isNumericOid {registry : Registry} (reached : registry.Reached)
    {s : String} (numeric : isNumericOid s.toList = true) {oid : Oid} :
    registry.store.names.get? s = some oid ↔
      oid.text = s ∧ registry.store.contains s = true := by
  have coherent := reached.sound.coherent
  rw [NameMap.get?, nameKey_of_isNumericOid numeric, coherent.named, Store.contains_eq_true_iff]
  constructor
  · rintro ⟨d, stored, own⟩
    have named := (reached.canonical _ d stored).named
    have same : s = oid.text :=
      ((d.mem_keys_of_isNumericOid named numeric).1 own).trans (coherent.keyed stored)
    exact ⟨same.symm, d, by rw [same, stored]⟩
  · rintro ⟨rfl, d, stored⟩
    refine ⟨d, stored, ?_⟩
    have named := (reached.canonical _ d stored).named
    exact (d.mem_keys_of_isNumericOid named numeric).2 (coherent.keyed stored).symm

/-- Nothing is stored under an identifier that stands for nothing. -/
theorem Reached.absent_of_unbound {registry : Registry} (reached : registry.Reached) {s : String}
    (numeric : isNumericOid s.toList = true) (free : registry.store.names.get? s = none) :
    registry.store.contains s = false := by
  rw [← Bool.not_eq_true]
  intro stored
  have known := (@Reached.get?_of_isNumericOid registry reached s numeric ⟨s, numeric⟩).2 ⟨rfl, stored⟩
  simp [free] at known

/-- A superior given as an identifier, blanks around it allowed, stands for itself or is refused. -/
theorem Reached.resolveSuperior_of_isNumericOid {registry : Registry}
    (reached : registry.Reached) {d : Definition}
    (named : ∀ name ∈ d.names, checkName name = .ok ()) {reference : String}
    (numeric : isNumericOid (Text.trim reference).toList = true) :
    registry.resolveSuperior d reference =
      if Text.trim reference = d.oid.text ∨ registry.store.contains (Text.trim reference) = true ∨
          registry.policy = .defer then
        .ok (Text.trim reference)
      else .error (.nameNotFound (Text.trim reference)) := by
  have own := d.hasName_of_isNumericOid named numeric
  have bound : ∀ oid : Oid, registry.store.names.get? (Text.trim reference) = some oid ↔
      oid.text = Text.trim reference ∧ registry.store.contains (Text.trim reference) = true :=
    fun _ => reached.get?_of_isNumericOid numeric
  unfold resolveSuperior NameMap.resolve
  simp only [own, numeric]
  by_cases itself : Text.trim reference = d.oid.text
  · simp [itself]
  · simp only [itself, if_false, false_or]
    cases found : registry.store.names.get? (Text.trim reference) with
    | some oid =>
      obtain ⟨same, stored⟩ := (bound oid).1 found
      simp [same, stored]
    | none =>
      simp [reached.absent_of_unbound numeric found]

end Registry

end Subschema
