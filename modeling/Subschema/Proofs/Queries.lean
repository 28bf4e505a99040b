import Mathlib.Data.List.Sort
import Subschema.Proofs.Sound

namespace Subschema

open Relation

theorem Links.toList_sorted (links : Links) : (links.toList.map Prod.fst).Pairwise (· < ·) := by
  rw [toList, List.map_map, List.pairwise_map]
  exact links.rows.ordered_keys_toList.imp fun less => compareOfLessAndEq_eq_lt.1 less

namespace Registry

/-- A registered definition from which superiors of registered definitions lead to another one. -/
def Inherits (registry : Registry) (sub sup : Definition) : Prop :=
  registry.store.get? sub.oid.text = some sub ∧
    TransGen registry.store.Names sub.oid.text sup.oid.text

theorem Sound.target_of_lookup {registry : Registry} (sound : registry.Sound) {name : String}
    {d : Definition} (leads : registry.lookup name = .ok d) :
    registry.resolveTarget name = .ok d.oid ∧ registry.store.get? d.oid.text = some d := by
  obtain ⟨bound, stored⟩ := sound.coherent.lookup_eq_ok_iff.1 leads
  exact ⟨by simp [resolveTarget, resolve, NameMap.resolve, bound], stored⟩

/-- A name that stands for anything stands for a registered definition. -/
theorem Sound.contains_eq_true_iff {registry : Registry} (sound : registry.Sound) {name : String} :
    registry.contains name = true ↔
      ∃ d, registry.lookup name = .ok d ∧ registry.store.get? d.oid.text = some d := by
  rw [contains, NameMap.contains, Option.isSome_iff_exists]
  constructor
  · rintro ⟨oid, bound⟩
    obtain ⟨d, stored, _⟩ := sound.coherent.named.1 bound
    obtain rfl := Oid.eq_of_text (sound.coherent.keyed stored)
    exact ⟨d, sound.coherent.lookup_eq_ok_iff.2 ⟨bound, stored⟩, stored⟩
  · rintro ⟨d, leads, _⟩
    exact ⟨d.oid, (sound.coherent.lookup_eq_ok_iff.1 leads).1⟩

/-- A row of the index has what inherits from its definition. -/
theorem Sound.mem_row_iff {registry : Registry} (sound : registry.Sound) {sup : Definition}
    (registered : registry.store.get? sup.oid.text = some sup) {oid : String} :
    oid ∈ registry.index.descendants.row sup.oid.text ↔
      ∃ sub, registry.store.get? oid = some sub ∧ registry.Inherits sub sup := by
  rw [sound.current.descendants]
  constructor
  · rintro ⟨_, chain⟩
    obtain ⟨_, ⟨sub, stored, _⟩, _⟩ := TransGen.head'_iff.1 chain
    have same := sound.coherent.keyed stored
    exact ⟨sub, stored, by rw [same, stored], by rw [same]; exact chain⟩
  · rintro ⟨sub, stored, _, chain⟩
    rw [← sound.coherent.keyed stored]
    exact ⟨Store.contains_eq_true_iff.2 ⟨sup, registered⟩, chain⟩

/-- The descendants of a definition are what inherits from it. -/
theorem Sound.descendants_spec {registry : Registry} (sound : registry.Sound) {name : String}
    {sup : Definition} (leads : registry.lookup name = .ok sup) :
    ∃ below, registry.descendants name = .ok below ∧ below.Nodup ∧
      ∀ sub, sub ∈ below ↔ registry.Inherits sub sup := by
  obtain ⟨target, registered⟩ := sound.target_of_lookup leads
  refine ⟨(registry.index.descendants.row sup.oid.text).toList.filterMap registry.store.get?,
    by simp [descendants, descendantOids, target, Except.map], ?_, fun sub => ?_⟩
  · refine (TextSet.toList_nodup _).filterMap fun first second d one two => ?_
    exact (sound.coherent.keyed one).symm.trans (sound.coherent.keyed two)
  · rw [List.mem_filterMap]
    constructor
    · rintro ⟨oid, member, stored⟩
      obtain ⟨d, again, inherits⟩ :=
        (sound.mem_row_iff registered).1 (Std.ExtTreeSet.mem_toList.1 member)
      cases Option.some.inj (stored.symm.trans again)
      exact inherits
    · intro inherits
      refine ⟨sub.oid.text, Std.ExtTreeSet.mem_toList.2 ?_, inherits.1⟩
      exact (sound.mem_row_iff registered).2 ⟨sub, inherits.1, inherits⟩

theorem Sound.hasDescendants_spec {registry : Registry} (sound : registry.Sound) {name : String}
    {sup : Definition} (leads : registry.lookup name = .ok sup) :
    ∃ answer, registry.hasDescendants name = .ok answer ∧
      (answer = true ↔ ∃ sub, registry.Inherits sub sup) := by
  obtain ⟨target, registered⟩ := sound.target_of_lookup leads
  refine ⟨!(registry.index.descendants.row sup.oid.text).isEmpty,
    by simp [hasDescendants, descendantOids, target, Except.map], ?_⟩
  rw [Bool.not_eq_true', Std.ExtTreeSet.isEmpty_eq_false_iff,
    Std.ExtTreeSet.eq_empty_iff_forall_not_mem, not_forall]
  simp only [not_not, sound.mem_row_iff registered]
  constructor
  · rintro ⟨_, sub, _, inherits⟩
    exact ⟨sub, inherits⟩
  · rintro ⟨sub, inherits⟩
    exact ⟨sub.oid.text, sub, inherits.1, inherits⟩

theorem Sound.isDescendantOf_spec {registry : Registry} (sound : registry.Sound)
    {subtype supertype : String} {sub sup : Definition} (leads : registry.lookup subtype = .ok sub)
    (above : registry.lookup supertype = .ok sup) :
    ∃ answer, registry.isDescendantOf subtype supertype = .ok answer ∧
      (answer = true ↔ registry.Inherits sub sup) := by
  obtain ⟨target, stored⟩ := sound.target_of_lookup leads
  obtain ⟨targetSup, registered⟩ := sound.target_of_lookup above
  refine ⟨registry.index.descendants.contains sup.oid.text sub.oid.text,
    by simp [isDescendantOf, target, targetSup, bind, Except.bind, pure, Except.pure], ?_⟩
  rw [Links.contains, ← Std.ExtTreeSet.mem_iff_contains, sound.mem_row_iff registered]
  constructor
  · rintro ⟨d, again, inherits⟩
    cases Option.some.inj (stored.symm.trans again)
    exact inherits
  · intro inherits
    exact ⟨sub, stored, inherits⟩

/-- What is pending is what some superior reference leads to and nothing is stored under. -/
theorem Sound.mem_pendingSuperiors {registry : Registry} (sound : registry.Sound)
    {superior : String} {waiting : List String} :
    (superior, waiting) ∈ registry.pendingSuperiors ↔
      isNumericOid superior.toList = true ∧ registry.store.contains superior = false ∧
        (∃ oid, registry.store.Names oid superior) ∧ waiting.Pairwise (· < ·) ∧
        ∀ oid, oid ∈ waiting ↔ registry.store.Names oid superior := by
  rw [pendingSuperiors, Links.mem_toList]
  constructor
  · rintro ⟨⟨oid, member⟩, rfl⟩
    obtain ⟨absent, names⟩ := sound.current.waiting.1 member
    refine ⟨sound.numeric names, absent, ⟨oid, names⟩, TextSet.toList_sorted _, fun other => ?_⟩
    rw [Std.ExtTreeSet.mem_toList, sound.current.waiting]
    simp [absent]
  · rintro ⟨_, absent, ⟨oid, names⟩, sorted, members⟩
    have row : ∀ other, other ∈ (registry.index.waiting.row superior).toList ↔ other ∈ waiting := by
      intro other
      rw [Std.ExtTreeSet.mem_toList, sound.current.waiting, members]
      simp [absent]
    exact ⟨⟨oid, sound.current.waiting.2 ⟨absent, names⟩⟩,
      sorted.eq_of_mem_iff (TextSet.toList_sorted _) fun {other} => (row other).symm⟩

theorem resolveTarget_eq_error_iff {registry : Registry} {name : String} {e : Error} :
    registry.resolveTarget name = .error e ↔ registry.contains name = false ∧ e = .notFound name := by
  unfold resolveTarget resolve contains NameMap.resolve NameMap.contains
  cases registry.store.names.get? name with
  | none => simp [eq_comm]
  | some oid => simp

theorem descendants_eq_error_iff {registry : Registry} {name : String} {e : Error} :
    registry.descendants name = .error e ↔ registry.contains name = false ∧ e = .notFound name := by
  rw [← resolveTarget_eq_error_iff]
  unfold descendants descendantOids
  cases registry.resolveTarget name <;> simp [Except.map]

theorem hasDescendants_eq_error_iff {registry : Registry} {name : String} {e : Error} :
    registry.hasDescendants name = .error e ↔
      registry.contains name = false ∧ e = .notFound name := by
  rw [← resolveTarget_eq_error_iff]
  unfold hasDescendants descendantOids
  cases registry.resolveTarget name <;> simp [Except.map]

/-- The subtype is resolved first, so it is the one that is reported if both names are unknown. -/
theorem isDescendantOf_eq_error_iff {registry : Registry} {subtype supertype : String} {e : Error} :
    registry.isDescendantOf subtype supertype = .error e ↔
      registry.contains subtype = false ∧ e = .notFound subtype ∨
      registry.contains subtype = true ∧ registry.contains supertype = false ∧
        e = .notFound supertype := by
  have missed := @resolveTarget_eq_error_iff registry supertype e
  unfold isDescendantOf
  cases target : registry.resolveTarget subtype with
  | error other =>
    obtain ⟨unknown, rfl⟩ := resolveTarget_eq_error_iff.1 target
    simp [bind, Except.bind, unknown, eq_comm (a := e)]
  | ok sub =>
    have known : registry.contains subtype = true := by
      rw [← Bool.not_eq_false]
      intro unknown
      have fails := resolveTarget_eq_error_iff.2 ⟨unknown, rfl⟩
      simp [target] at fails
    rw [← missed]
    cases registry.resolveTarget supertype with
    | error other => simp [bind, Except.bind, known]
    | ok sup => simp [bind, Except.bind, pure, Except.pure, known]

/-- All answers about the hierarchy are exact, whatever calls have led to the registry: what inherits
from a definition is what chains of superiors lead from, and what is pending is what is named and
not registered. Only unknown names make a question fail. -/
theorem Reached.queries_exact {registry : Registry} (reached : registry.Reached) :
    (∀ name, registry.contains name = true ↔
      ∃ d, registry.lookup name = .ok d ∧ registry.store.get? d.oid.text = some d) ∧
    (∀ subtype supertype sub sup, registry.lookup subtype = .ok sub →
      registry.lookup supertype = .ok sup →
      ∃ answer, registry.isDescendantOf subtype supertype = .ok answer ∧
        (answer = true ↔ registry.Inherits sub sup)) ∧
    (∀ name sup, registry.lookup name = .ok sup →
      (∃ below, registry.descendants name = .ok below ∧ below.Nodup ∧
        ∀ sub, sub ∈ below ↔ registry.Inherits sub sup) ∧
      ∃ answer, registry.hasDescendants name = .ok answer ∧
        (answer = true ↔ ∃ sub, registry.Inherits sub sup)) ∧
    (∀ name e, (registry.descendants name = .error e ↔
        registry.contains name = false ∧ e = .notFound name) ∧
      (registry.hasDescendants name = .error e ↔
        registry.contains name = false ∧ e = .notFound name)) ∧
    (∀ subtype supertype e, registry.isDescendantOf subtype supertype = .error e ↔
      registry.contains subtype = false ∧ e = .notFound subtype ∨
      registry.contains subtype = true ∧ registry.contains supertype = false ∧
        e = .notFound supertype) ∧
    (registry.pendingSuperiors.map Prod.fst).Pairwise (· < ·) ∧
    ∀ superior waiting, (superior, waiting) ∈ registry.pendingSuperiors ↔
      isNumericOid superior.toList = true ∧ registry.store.contains superior = false ∧
        (∃ oid, registry.store.Names oid superior) ∧ waiting.Pairwise (· < ·) ∧
        ∀ oid, oid ∈ waiting ↔ registry.store.Names oid superior := by
  have sound := reached.sound
  exact ⟨fun _ => sound.contains_eq_true_iff, fun _ _ _ _ => sound.isDescendantOf_spec,
    fun _ _ leads => ⟨sound.descendants_spec leads, sound.hasDescendants_spec leads⟩,
    fun _ _ => ⟨descendants_eq_error_iff, hasDescendants_eq_error_iff⟩,
    fun _ _ _ => isDescendantOf_eq_error_iff, Links.toList_sorted _,
    fun _ _ => sound.mem_pendingSuperiors⟩

/-- The answers while a definition waits for its superior, and once that has come. -/
theorem Reached.queries_exact_sample :
    ("2.5.6.0", ["2.5.6.6"]) ∈ Sample.waiting.pendingSuperiors ∧
      Sample.full.isDescendantOf " person" "TOP" = .ok true ∧
      Sample.full.hasDescendants "Top" = .ok true ∧
      Sample.full.descendants "thing" = .error (.notFound "thing") := by
  have inherits : Sample.full.Inherits Sample.person Sample.top :=
    ⟨by decide +kernel, .single ⟨Sample.person, by decide +kernel, by decide⟩⟩
  have names : ∀ oid, oid ∈ ["2.5.6.6"] ↔ Sample.waiting.store.Names oid "2.5.6.0" := by
    intro oid
    change oid ∈ ["2.5.6.6"] ↔ Sample.personStore.Names oid "2.5.6.0"
    have gains := @Store.gains_of_insert {} Sample.personStore Sample.person "2.5.6.6"
      (by simp [Store.get?]) rfl
    have silent : ¬ Store.Names {} oid "2.5.6.0" := by simp [Store.Names, Store.get?]
    simpa [silent, Sample.person] using (gains oid "2.5.6.0").symm
  obtain ⟨_, _, _, _, _, _, pending⟩ := queries_exact Sample.waiting_reached
  obtain ⟨_, below, above, unknown, _, _, _⟩ := queries_exact Sample.full_reached
  refine ⟨(pending _ _).2 ⟨by decide +kernel, by decide +kernel, ⟨"2.5.6.6", (names _).1 (by simp)⟩,
    by simp, names⟩, ?_, ?_, ?_⟩
  · obtain ⟨answer, asked, means⟩ :=
      below " person" "TOP" Sample.person Sample.top (by decide +kernel) (by decide +kernel)
    rw [asked, means.2 inherits]
  · obtain ⟨_, answer, asked, means⟩ := above "Top" Sample.top (by decide +kernel)
    rw [asked, means.2 ⟨_, inherits⟩]
  · exact (unknown "thing" _).1.2 ⟨by decide +kernel, rfl⟩

end Registry

end Subschema
