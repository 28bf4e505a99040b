import Subschema.Bundle
import Subschema.Proofs.Accepted
import Subschema.Proofs.References

namespace Subschema

open Relation

namespace Registry

theorem Reached.names_kept {registry after : Registry} (reached : registry.Reached)
    (last : after.Reached)
    (kept : ∀ oid d, registry.store.get? oid = some d → after.store.get? oid = some d)
    (name : String) (oid : Oid) (found : registry.store.names.get? name = some oid) :
    after.store.names.get? name = some oid := by
  obtain ⟨d, stored, own⟩ := reached.sound.coherent.named.1 found
  exact last.sound.coherent.named.2 ⟨d, kept _ _ stored, own⟩

/-- One registry holds what another one does and, besides, just the definitions of a list, with the
superiors that their references stand for in the end. -/
structure Extends (after registry : Registry) (batch : List Definition) : Prop where
  kind : after.kind = registry.kind
  policy : after.policy = registry.policy
  distinct : (batch.map fun d => d.oid.text).Nodup
  fresh : ∀ d ∈ batch, registry.store.get? d.oid.text = none
  kept : ∀ oid d, registry.store.get? oid = some d → after.store.get? oid = some d
  added : ∀ d ∈ batch, ∃ superiors, after.resolveSuperiors d = .ok superiors ∧
    after.store.get? d.oid.text = some { d with superiors }
  only : ∀ oid d, after.store.get? oid = some d →
    registry.store.get? oid = some d ∨ ∃ e ∈ batch, e.oid.text = oid

theorem Extends.nil (registry : Registry) : registry.Extends registry [] :=
  ⟨rfl, rfl, .nil, by simp, fun _ _ stored => stored, by simp, fun _ _ stored => Or.inl stored⟩

/-- An extension does not tell in which order the definitions came. -/
theorem Extends.perm {after registry : Registry} {batch other : List Definition}
    (extension : after.Extends registry batch) (same : batch.Perm other) :
    after.Extends registry other where
  kind := extension.kind
  policy := extension.policy
  distinct := (same.map _).nodup_iff.1 extension.distinct
  fresh := fun d member => extension.fresh d (same.mem_iff.2 member)
  kept := extension.kept
  added := fun d member => extension.added d (same.mem_iff.2 member)
  only := fun oid d stored => (extension.only oid d stored).imp_right fun ⟨e, member, own⟩ =>
    ⟨e, same.mem_iff.1 member, own⟩

/-- The names of an extension are those of the registry and those of the list. -/
theorem Extends.named {registry after : Registry} {batch : List Definition}
    (extension : after.Extends registry batch) (reached : after.Reached) {key : String}
    {oid : Oid} :
    after.store.names.bindings[key]? = some oid ↔
      (∃ d, registry.store.get? oid.text = some d ∧ key ∈ d.keys) ∨
      ∃ d ∈ batch, d.oid = oid ∧ key ∈ d.keys := by
  rw [reached.sound.coherent.named]
  constructor
  · rintro ⟨d, stored, own⟩
    rcases extension.only _ _ stored with before | ⟨e, member, same⟩
    · exact Or.inl ⟨d, before, own⟩
    · obtain ⟨superiors, _, held⟩ := extension.added e member
      rw [same, stored] at held
      cases Option.some.inj held
      exact Or.inr ⟨e, member, Oid.eq_of_text same, own⟩
  · rintro (⟨d, before, own⟩ | ⟨d, member, rfl, own⟩)
    · exact ⟨d, extension.kept _ _ before, own⟩
    · obtain ⟨superiors, _, held⟩ := extension.added d member
      exact ⟨_, held, own⟩

/-- Two lists that go in one after the other extend the registry by both of them. -/
theorem Extends.trans {registry mid after : Registry} {first second : List Definition}
    (one : mid.Extends registry first) (two : after.Extends mid second) (between : mid.Reached)
    (last : after.Reached) : after.Extends registry (first ++ second) where
  kind := two.kind.trans one.kind
  policy := two.policy.trans one.policy
  distinct := by
    rw [List.map_append, List.nodup_append]
    refine ⟨one.distinct, two.distinct, fun oid early other late same => ?_⟩
    obtain ⟨d, member, rfl⟩ := List.mem_map.1 early
    obtain ⟨e, later, rfl⟩ := List.mem_map.1 late
    obtain ⟨_, _, stored⟩ := one.added d member
    have absent := two.fresh e later
    rw [← same, stored] at absent
    simp at absent
  fresh := by
    intro d member
    rcases List.mem_append.1 member with early | late
    · exact one.fresh d early
    · refine Option.eq_none_iff_forall_ne_some.2 fun e before => ?_
      have absent := two.fresh d late
      rw [one.kept _ _ before] at absent
      simp at absent
  kept := fun oid d before => two.kept oid d (one.kept oid d before)
  added := by
    intro d member
    rcases List.mem_append.1 member with early | late
    · obtain ⟨superiors, resolved, stored⟩ := one.added d early
      have names := between.names_kept last two.kept
      exact ⟨superiors, resolveSuperiors_mono last two.policy names resolved, two.kept _ _ stored⟩
    · exact two.added d late
  only := by
    intro oid d stored
    rcases two.only oid d stored with earlier | ⟨e, late, same⟩
    · refine (one.only oid d earlier).imp_right fun ⟨e, early, same⟩ => ?_
      exact ⟨e, List.mem_append_left _ early, same⟩
    · exact Or.inr ⟨e, List.mem_append_right _ late, same⟩

/-- What an extension adds after the first part of its list extends what that part has led to. The
definitions of the first part are stored alike in both: no name that they refer to changes. -/
theorem Extends.cancel {registry mid after : Registry} {first second : List Definition}
    (whole : after.Extends registry (first ++ second)) (one : mid.Extends registry first)
    (between : mid.Reached) (last : after.Reached) : after.Extends mid second := by
  have policy : after.policy = mid.policy := whole.policy.trans one.policy.symm
  -- Names come first: that definitions are stored alike depends on what their references stand for.
  have names : ∀ name oid, mid.store.names.get? name = some oid →
      after.store.names.get? name = some oid := by
    intro name oid found
    refine (whole.named last).2 (((one.named between).1 found).imp_right ?_)
    rintro ⟨d, member, own⟩
    exact ⟨d, List.mem_append_left _ member, own⟩
  have alike : ∀ d ∈ first, mid.store.get? d.oid.text = after.store.get? d.oid.text := by
    intro d member
    obtain ⟨superiors, resolved, stored⟩ := one.added d member
    obtain ⟨others, again, held⟩ := whole.added d (List.mem_append_left _ member)
    rw [resolveSuperiors_mono last policy names resolved] at again
    cases Except.ok.inj again
    rw [stored, held]
  obtain ⟨_, distinct, apart⟩ := List.nodup_append.1 (List.map_append ▸ whole.distinct)
  refine ⟨whole.kind.trans one.kind.symm, policy, distinct, fun d member => ?_,
    fun oid d stored => ?_, fun d member => whole.added d (List.mem_append_right _ member),
    fun oid d stored => ?_⟩
  · refine Option.eq_none_iff_forall_ne_some.2 fun e stored => ?_
    rcases one.only _ _ stored with before | ⟨f, early, same⟩
    · rw [whole.fresh d (List.mem_append_right _ member)] at before
      simp at before
    · exact apart _ (List.mem_map.2 ⟨f, early, same⟩) _ (List.mem_map.2 ⟨d, member, rfl⟩) rfl
  · rcases one.only _ _ stored with before | ⟨e, early, rfl⟩
    · exact whole.kept oid d before
    · rw [← alike e early, stored]
  · rcases whole.only _ _ stored with before | ⟨e, member, rfl⟩
    · exact Or.inl (one.kept oid d before)
    · rcases List.mem_append.1 member with early | late
      · exact Or.inl (by rw [alike e early, stored])
      · exact Or.inr ⟨e, late, rfl⟩

theorem Reached.extends_of_register {registry after : Registry} (reached : registry.Reached)
    {d stored : Definition} (run : registry.register d = .ok (stored, after)) :
    after.Extends registry [d] := by
  obtain ⟨superiors, accepts, rfl⟩ := reached.accepts_of_register run
  obtain ⟨kind, policy, inserted⟩ := get?_register run
  have last := reached.register run
  have kept : ∀ oid e, registry.store.get? oid = some e → after.store.get? oid = some e := by
    intro oid e before
    rw [inserted, if_neg, before]
    rintro rfl
    rw [accepts.absent] at before
    simp at before
  have resolved :=
    resolveSuperiors_mono last policy (reached.names_kept last kept) accepts.resolved
  refine ⟨kind, policy, by simp, ?_, kept, ?_, fun oid e stored => ?_⟩
  · exact List.forall_mem_singleton.2 accepts.absent
  · refine List.forall_mem_singleton.2 ⟨superiors, resolved, ?_⟩
    rw [inserted, if_pos rfl]
  · rw [inserted] at stored
    split at stored
    · rename_i same
      exact Or.inr ⟨d, List.mem_singleton_self d, same.symm⟩
    · exact Or.inl stored

/-- A list adds to a registry in one way only. -/
theorem Extends.unique {registry first second : Registry} {batch : List Definition}
    (one : first.Extends registry batch) (two : second.Extends registry batch)
    (reachedFirst : first.Reached) (reachedSecond : second.Reached) : first = second := by
  have policy : first.policy = second.policy := one.policy.trans two.policy.symm
  have names : first.store.names = second.store.names := by
    refine NameMap.ext_bindings fun key => Option.ext fun oid => ?_
    rw [one.named reachedFirst, two.named reachedSecond]
  have within : ∀ {first second : Registry}, first.Extends registry batch →
      second.Extends registry batch → first.policy = second.policy →
      first.store.names = second.store.names →
      ∀ oid d, first.store.get? oid = some d → second.store.get? oid = some d := by
    intro first second one two policy names oid d stored
    rcases one.only oid d stored with before | ⟨e, member, rfl⟩
    · exact two.kept oid d before
    · obtain ⟨superiors, resolved, held⟩ := one.added e member
      obtain ⟨others, again, there⟩ := two.added e member
      rw [resolveSuperiors_congr policy names, again] at resolved
      cases Except.ok.inj resolved
      rw [there, ← held, stored]
  refine reachedFirst.eq_of_get? reachedSecond (one.kind.trans two.kind.symm) policy fun oid => ?_
  refine Option.ext fun d => ?_
  exact ⟨within one two policy names oid d, within two one policy.symm names.symm oid d⟩

/-- A definition of the list is taken at once if its superiors stand for something already. -/
theorem Extends.accepts {registry after : Registry} {batch : List Definition}
    (extension : after.Extends registry batch) (reached : registry.Reached)
    (last : after.Reached) {d : Definition} (member : d ∈ batch) {superiors : List String}
    (resolved : registry.resolveSuperiors d = .ok superiors) : registry.Accepts d superiors := by
  obtain ⟨found, again, stored⟩ := extension.added d member
  have names := reached.names_kept last extension.kept
  rw [resolveSuperiors_mono last extension.policy names resolved] at again
  cases Except.ok.inj again
  have canonical := last.canonical _ _ stored
  have absent := extension.fresh d member
  obtain ⟨unbound, apart⟩ :=
    last.free_of_part (d := { d with superiors }) reached extension.kept stored absent
  exact ⟨canonical.fits.trans extension.kind, canonical.named, absent, unbound, resolved, apart⟩

end Registry

namespace Bundle

theorem registerAll_cons_eq_ok_iff {registry after : Registry} {d : Definition}
    {rest : List Definition} :
    registerAll registry (d :: rest) = .ok after ↔
      ∃ stored mid, registry.register d = .ok (stored, mid) ∧ registerAll mid rest = .ok after := by
  unfold registerAll
  rw [List.foldlM_cons, bind_eq_ok_iff]
  constructor
  · rintro ⟨mid, first, later⟩
    obtain ⟨⟨stored, _⟩, run, rfl⟩ := map_eq_ok_iff.1 first
    exact ⟨stored, _, run, later⟩
  · rintro ⟨stored, mid, run, later⟩
    exact ⟨mid, map_eq_ok_iff.2 ⟨(stored, mid), run, rfl⟩, later⟩

theorem extends_of_registerAll {registry after : Registry} (reached : registry.Reached)
    {batch : List Definition} (run : registerAll registry batch = .ok after) :
    after.Reached ∧ after.Extends registry batch := by
  induction batch generalizing registry with
  | nil =>
    cases Except.ok.inj run
    exact ⟨reached, .nil _⟩
  | cons d rest ih =>
    obtain ⟨stored, mid, first, later⟩ := registerAll_cons_eq_ok_iff.1 run
    have between := reached.register first
    obtain ⟨last, extension⟩ := ih between later
    exact ⟨last, (reached.extends_of_register first).trans extension between last⟩

/-- A list that an extension has taken in is registered in any order in which the superiors of each
definition stand for something when its turn comes. -/
theorem registerAll_of_extends {registry after : Registry} (reached : registry.Reached)
    (last : after.Reached) {batch : List Definition} (extension : after.Extends registry batch)
    (settled : ∀ before d rest, batch = before ++ d :: rest → ∀ mid : Registry, mid.Reached →
      mid.Extends registry before → ∃ superiors, mid.resolveSuperiors d = .ok superiors) :
    registerAll registry batch = .ok after := by
  induction batch generalizing registry with
  | nil =>
    have same := extension.unique (.nil registry) last reached
    rw [same]
    rfl
  | cons d rest ih =>
    obtain ⟨superiors, resolved⟩ := settled [] d rest rfl registry reached (.nil registry)
    obtain ⟨mid, run⟩ := (extension.accepts reached last List.mem_cons_self resolved).register
    have first := reached.extends_of_register run
    have between := reached.register run
    have whole : after.Extends registry ([d] ++ rest) := extension
    refine registerAll_cons_eq_ok_iff.2 ⟨_, mid, run, ih between (whole.cancel first between last) ?_⟩
    intro before e later split other reachedOther onward
    refine settled (d :: before) e later ?_ other reachedOther
      (first.trans onward between reachedOther)
    rw [split, List.cons_append]

end Bundle

namespace Registry

theorem Extends.named_of_mem {registry after : Registry} {batch : List Definition}
    (extension : after.Extends registry batch) (last : after.Reached) {d : Definition}
    (member : d ∈ batch) : ∀ name ∈ d.names, checkName name = .ok () := by
  obtain ⟨_, _, stored⟩ := extension.added d member
  exact (last.canonical _ _ stored).named

/-- Where superiors may wait, the order does not matter: definitions whose superiors are all given as
identifiers, blanks around them allowed, are taken in every order or in none, and leave the same
registry, indexes and all. -/
theorem Reached.registerAll_perm {registry : Registry} (reached : registry.Reached)
    (defers : registry.policy = .defer) {batch other : List Definition}
    (numeric : ∀ d ∈ batch, ∀ superior ∈ d.superiors,
      isNumericOid (Text.trim superior).toList = true)
    (same : batch.Perm other) {after : Registry} (run : Bundle.registerAll registry batch = .ok after) :
    Bundle.registerAll registry other = .ok after := by
  obtain ⟨last, extension⟩ := Bundle.extends_of_registerAll reached run
  refine Bundle.registerAll_of_extends reached last (extension.perm same) ?_
  rintro before d rest rfl mid reachedMid between
  have member : d ∈ batch := same.mem_iff.2 (by simp)
  exact ⟨_, reachedMid.resolveSuperiors_of_defer (between.policy.trans defers)
    (extension.named_of_mem last member) (numeric d member)⟩

theorem Reached.registerAll_perm_sample :
    Bundle.registerAll { kind := .objectClass } [Sample.top, Sample.person] = .ok Sample.full := by
  have run : Bundle.registerAll { kind := .objectClass } [Sample.person, Sample.top] =
      .ok Sample.full :=
    Bundle.registerAll_cons_eq_ok_iff.2 ⟨_, _, Sample.register_person,
      Bundle.registerAll_cons_eq_ok_iff.2 ⟨_, _, Sample.register_top, rfl⟩⟩
  exact registerAll_perm (.empty _ _) rfl (by decide +kernel) (.swap _ _ _) run

end Registry

end Subschema
