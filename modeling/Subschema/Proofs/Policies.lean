import Subschema.Proofs.Schemas

namespace Subschema

open Relation

namespace Registry

/-- The registry as it would be under another policy. -/
abbrev under (registry : Registry) (policy : Policy) : Registry := { registry with policy }

/-- The policy is no part of what makes a registry sound. -/
theorem Sound.under {registry : Registry} (sound : registry.Sound) (policy : Policy) :
    (registry.under policy).Sound :=
  ⟨sound.coherent, sound.current, sound.acyclic, sound.numeric⟩

/-- A reference to something registered has been bound, unless it leads to the definition itself. -/
theorem Resolves.bound_of_contains {registry : Registry} (reached : registry.Reached) {d : Definition}
    {reference superior : String} (resolves : registry.Resolves d reference superior)
    (other : superior ≠ d.oid.text) (stored : registry.store.contains superior = true) :
    ∃ oid : Oid, oid.text = superior ∧ registry.store.names.get? reference = some oid := by
  cases resolves with
  | own => exact absurd rfl other
  | @bound oid _ found => exact ⟨oid, rfl, found⟩
  | waits _ free _ numeric =>
    rw [reached.absent_of_unbound numeric (by rw [NameMap.get?_trim, free])] at stored
    simp at stored

theorem Resolves.under {registry : Registry} (reached : registry.Reached) {policy : Policy}
    {d : Definition} {reference superior : String} (resolves : registry.Resolves d reference superior)
    (settled : policy = .defer ∨ registry.store.contains superior = true) :
    (registry.under policy).Resolves d reference superior := by
  cases resolves with
  | own self => exact .own self
  | bound foreign found => exact .bound foreign found
  | waits foreign free defers numeric =>
    rcases settled with allowed | stored
    · exact .waits foreign free allowed numeric
    · rw [reached.absent_of_unbound numeric (by rw [NameMap.get?_trim, free])] at stored
      simp at stored

/-- Another policy does not change what is registered, nor how, if it lets superiors wait or none has
to. -/
theorem Reached.register_under {registry after : Registry} (reached : registry.Reached)
    {policy : Policy} {d stored : Definition} (run : registry.register d = .ok (stored, after))
    (settled : policy = .defer ∨
      ∀ superior ∈ stored.superiors, registry.store.contains superior = true) :
    (registry.under policy).register d = .ok (stored, after.under policy) := by
  obtain ⟨passes, store, stores, rfl⟩ := register_eq_ok_iff.1 run
  obtain ⟨fits, named, registrable, superiors, resolved, apart, rfl⟩ := prepare_eq_ok_iff.1 passes
  obtain ⟨found, reads, rfl⟩ := resolveSuperiors_eq_ok_iff.1 resolved
  have again : (registry.under policy).resolveSuperiors d = .ok found.eraseDups := by
    refine resolveSuperiors_eq_ok_iff.2 ⟨found, List.forall₂_iff_zip.2 ⟨reads.length_eq, ?_⟩, rfl⟩
    intro reference superior pair
    have resolves := resolveSuperior_eq_ok_iff.1 ((List.forall₂_iff_zip.1 reads).2 pair)
    have listed : superior ∈ found.eraseDups := List.mem_eraseDups.2 (List.of_mem_zip pair).2
    exact resolveSuperior_eq_ok_iff.2
      (resolves.under reached (settled.imp_right fun known => known superior listed))
  exact register_eq_ok_iff.2 ⟨prepare_eq_ok_iff.2 ⟨fits, named, registrable, _, again, apart, rfl⟩,
    store, stores, rfl⟩

end Registry

namespace Bundle

/-- One policy after the other: what a list leaves is the same, if the other policy lets superiors wait
or those of each definition are registered when its turn comes. -/
theorem registerAll_under {registry after : Registry} (reached : registry.Reached) {policy : Policy}
    {batch : List Definition} (run : registerAll registry batch = .ok after)
    (settled : policy = .defer ∨ ∀ before d rest, batch = before ++ d :: rest → ∀ mid : Registry,
      mid.Reached → mid.Extends registry before → ∀ superiors, mid.resolveSuperiors d = .ok superiors →
        ∀ superior ∈ superiors, mid.store.contains superior = true) :
    registerAll (registry.under policy) batch = .ok (after.under policy) := by
  induction batch generalizing registry with
  | nil =>
    cases Except.ok.inj run
    rfl
  | cons d rest ih =>
    obtain ⟨stored, mid, first, later⟩ := registerAll_cons_eq_ok_iff.1 run
    have between := reached.register first
    have onward := reached.extends_of_register first
    obtain ⟨superiors, accepts, rfl⟩ := reached.accepts_of_register first
    have known : policy = .defer ∨
        ∀ superior ∈ superiors, registry.store.contains superior = true :=
      settled.imp_right fun each =>
        each [] d rest rfl registry reached (.nil registry) superiors accepts.resolved
    refine registerAll_cons_eq_ok_iff.2
      ⟨_, _, reached.register_under first known, ih between later (settled.imp_right ?_)⟩
    intro each before e last split other reachedOther extension
    refine each (d :: before) e last ?_ other reachedOther (onward.trans extension between reachedOther)
    rw [split, List.cons_append]

end Bundle

namespace Registry

/-- Every definition that one registry has and another lacks has registered superiors only. -/
def Complete (after registry : Registry) : Prop :=
  ∀ oid d, after.store.get? oid = some d → registry.store.get? oid = none →
    ∀ superior ∈ d.superiors, after.store.contains superior = true

/-- Where superiors may not wait, those of what is added are registered. -/
theorem Extends.complete {registry after : Registry} {batch : List Definition}
    (extension : after.Extends registry batch) (last : after.Reached) (rejects : after.policy = .reject) :
    after.Complete registry := by
  intro oid d stored absent superior named
  obtain ⟨e, member, rfl⟩ := (extension.only oid d stored).resolve_left (by simp [absent])
  obtain ⟨superiors, resolved, held⟩ := extension.added e member
  cases Option.some.inj (stored.symm.trans held)
  obtain ⟨found, reads, rfl⟩ := resolveSuperiors_eq_ok_iff.1 resolved
  obtain ⟨reference, _, run⟩ := exists_of_forall₂ reads.flip (List.mem_eraseDups.1 named)
  cases resolveSuperior_eq_ok_iff.1 run with
  | own => exact Store.contains_eq_true_iff.2 ⟨_, stored⟩
  | bound _ bound =>
    obtain ⟨f, kept, _⟩ := last.sound.coherent.named.1 bound
    exact Store.contains_eq_true_iff.2 ⟨f, kept⟩
  | waits _ _ defers =>
    rw [rejects] at defers
    cases defers

/-- When the turn of a definition comes, its superiors that are registered in the end are registered
already, provided that those in the batch have had their turn. -/
theorem settled_of_superiors {registry mid after : Registry} {batch before rest : List Definition}
    {d : Definition} (reached : registry.Reached) (last : after.Reached)
    (extension : after.Extends registry batch) {definitions : List Definition}
    (gathers : definitions.Perm (registry.gathered batch)) (complete : after.Complete registry)
    (reachedMid : mid.Reached) (between : mid.Extends registry before)
    (onward : after.Extends mid (d :: rest)) (within : ∀ e ∈ d :: rest, e ∈ batch)
    (superiors : ∀ e ∈ batch,
      (Hierarchy.ofDefinitions definitions).Edge d.oid.text e.oid.text → e ∈ before)
    {found : List String} (resolved : mid.resolveSuperiors d = .ok found) :
    ∀ superior ∈ found, mid.store.contains superior = true := by
  intro superior listed
  have names := reachedMid.names_kept last onward.kept
  have again := resolveSuperiors_mono last onward.policy names resolved
  obtain ⟨_, final, stored⟩ := onward.added d List.mem_cons_self
  cases Except.ok.inj (again.symm.trans final)
  have absent := extension.fresh d (within d List.mem_cons_self)
  obtain ⟨e, held⟩ := Store.contains_eq_true_iff.1 (complete _ _ stored absent superior listed)
  rcases onward.only superior e held with before | ⟨f, later, rfl⟩
  · exact Store.contains_eq_true_iff.2 ⟨e, before⟩
  -- It would be in the batch and still to come, though the graph has an edge to it.
  · have other : f.oid.text ≠ d.oid.text := fun same =>
      last.sound.acyclic _ (.single ⟨_, stored, same ▸ listed⟩)
    obtain ⟨reads, resolves, rfl⟩ := resolveSuperiors_eq_ok_iff.1 again
    obtain ⟨reference, named, run⟩ := exists_of_forall₂ resolves.flip (List.mem_eraseDups.1 listed)
    obtain ⟨oid, same, bound⟩ := (resolveSuperior_eq_ok_iff.1 run).bound_of_contains last other
      (Store.contains_eq_true_iff.2 ⟨e, held⟩)
    rw [Oid.eq_of_text same] at bound
    have edge := edge_of_bound reached last extension gathers (within d List.mem_cons_self) named bound
    obtain ⟨_, _, kept⟩ := between.added f (superiors f (within f later) edge)
    exact Store.contains_eq_true_iff.2 ⟨_, kept⟩

end Registry

namespace Bundle

/-- Where superiors may not wait, a batch goes in exactly if it does where they may and none is left
waiting; and what it leaves is then the same. The two registries may list what they hold in different
orders. -/
theorem registerBatch_reject_iff (listing relisting : Listing) {registry after : Registry}
    (reached : registry.Reached) (defers : registry.policy = .defer)
    (reachedStrict : (registry.under .reject).Reached) {batch : List Definition} :
    registerBatch relisting (registry.under .reject) batch = .ok after ↔
      ∃ other, registerBatch listing registry batch = .ok other ∧ other.Complete registry ∧
        after = other.under .reject := by
  constructor
  · intro run
    obtain ⟨order, same, run⟩ := (registerBatch_eq_ok_iff relisting reachedStrict).1 run
    obtain ⟨last, extension⟩ := extends_of_registerAll reachedStrict run
    have deferred := registerAll_under reachedStrict run (Or.inl (Eq.refl Policy.defer))
    have own : (registry.under .reject).under .defer = registry := by
      cases registry
      cases defers
      rfl
    have restored : after = (after.under .defer).under .reject := by
      have rejects := extension.policy
      cases after
      cases rejects
      rfl
    rw [own] at deferred
    exact ⟨_, (registerBatch_eq_ok_iff listing reached).2 ⟨order, same, deferred⟩,
      extension.complete last extension.policy, restored⟩
  · rintro ⟨other, run, complete, rfl⟩
    have gathers := listing.perm_append registry batch
    obtain ⟨⟨apart, fresh⟩, order, sorted, run⟩ := (registerBatch_eq_ok_iff_arrange reached).1 run
    obtain ⟨acyclic, rfl⟩ := Hierarchy.superiorsFirst_ofDefinitions.1 sorted
    have arranged := arrange_bottomUp_perm gathers apart
    obtain ⟨last, onward⟩ := extends_of_registerAll reached run
    have extension := onward.perm arranged
    refine (registerBatch_eq_ok_iff relisting reachedStrict).2
      ⟨_, arranged, registerAll_under reached run (Or.inr ?_)⟩
    intro before d rest split mid reachedMid between superiors resolved
    rw [split] at onward
    refine Registry.settled_of_superiors reached last extension gathers complete reachedMid between
      (onward.cancel between reachedMid last) (fun e member => arranged.mem_iff.1 ?_)
      (arrange_bottomUp_sorted gathers apart acyclic split) resolved
    rw [split]
    exact List.mem_append_right _ member

end Bundle

namespace Schema

section Counterparts

variable {lenient strict : Schema} (reached : lenient.Reached) (reachedStrict : strict.Reached)
  (defers : ∀ kind, (lenient.registry kind).policy = .defer)
  (rejects : ∀ kind, (strict.registry kind).policy = .reject)
  (same : ∀ kind oid, (lenient.registry kind).store.get? oid = (strict.registry kind).store.get? oid)

include reached reachedStrict rejects same

/-- Schemas with the same definitions differ in the policy of their registries only. -/
theorem registry_eq_under (kind : Kind) :
    strict.registry kind = (lenient.registry kind).under .reject := by
  have kinds := (reachedStrict.kind_registry kind).trans (reached.kind_registry kind).symm
  exact (reachedStrict.sound kind).sound.eq_of_get? ((reached.sound kind).sound.under .reject) kinds
    (rejects kind) fun oid => (same kind oid).symm

include defers

/-- Where superiors may not wait, a bundle is loaded exactly if it is where they may and none of the new
ones is missing. The two loads may list the registered definitions in different ways. -/
theorem loadBy_reject_iff (listing relisting : Listing) {bundle : Bundle} {outcome : Report}
    {after : Schema} :
    bundle.loadBy relisting strict = .ok (outcome, after) ↔
      ∃ other, bundle.loadBy listing lenient = .ok (outcome, other) ∧
        ∀ kind, (other.registry kind).Complete (lenient.registry kind) ∧
          after.registry kind = (other.registry kind).under .reject := by
  have own := registry_eq_under reached reachedStrict rejects same
  have batches : ∀ kind batch registry,
      Bundle.registerBatch relisting (strict.registry kind) batch = .ok registry ↔
        ∃ other, Bundle.registerBatch listing (lenient.registry kind) batch = .ok other ∧
          other.Complete (lenient.registry kind) ∧ registry = other.under .reject := by
    intro kind batch registry
    have reachedUnder := reachedStrict.sound kind
    rw [own] at reachedUnder ⊢
    exact Bundle.registerBatch_reject_iff listing relisting (reached.sound kind) (defers kind)
      reachedUnder
  simp only [Bundle.loadBy_eq_ok_iff reachedStrict.sound, Bundle.loadBy_eq_ok_iff reached.sound,
    batches]
  constructor
  · rintro ⟨documents, decoded, counted, each⟩
    choose batch stands other registers complete restored using each
    have kept : ∀ kind, registry ⟨other .objectClass, other .attributeType⟩ kind = other kind :=
      fun kind => by cases kind <;> rfl
    refine ⟨⟨other .objectClass, other .attributeType⟩, ⟨documents, decoded, counted, fun kind => ?_⟩,
      fun kind => ?_⟩
    · exact ⟨batch kind, stands kind, by rw [kept, registers]⟩
    · rw [kept]
      exact ⟨complete kind, restored kind⟩
  · rintro ⟨other, ⟨documents, decoded, counted, each⟩, restored⟩
    refine ⟨documents, decoded, counted, fun kind => ?_⟩
    obtain ⟨batch, stands, registers⟩ := each kind
    exact ⟨batch, stands, _, registers, restored kind⟩

/-- Loading under the two policies differs in missing superiors only. Of two schemas with the same
definitions, the one that lets no superior wait takes in a bundle exactly if the other one does and
every superior of what it has taken in is then registered; and both are left with the same names,
definitions and indexes. In which order either of them goes through what it has registered makes no
difference. -/
theorem Reached.load_policies (bundle : Bundle) (listing relisting : Listing) :
    ((∃ report after, bundle.loadBy relisting strict = .ok (report, after)) ↔
      ∃ report after, bundle.loadBy listing lenient = .ok (report, after) ∧
        ∀ kind oid d, (after.registry kind).store.get? oid = some d →
          (lenient.registry kind).store.get? oid = none →
          ∀ superior ∈ d.superiors, (after.registry kind).store.contains superior = true) ∧
    ∀ report reportStrict after afterStrict, bundle.loadBy listing lenient = .ok (report, after) →
      bundle.loadBy relisting strict = .ok (reportStrict, afterStrict) →
      reportStrict = report ∧ ∀ kind,
        (afterStrict.registry kind).store = (after.registry kind).store ∧
        (afterStrict.registry kind).index = (after.registry kind).index := by
  have loads := @loadBy_reject_iff lenient strict reached reachedStrict defers rejects same listing
    relisting bundle
  refine ⟨⟨?_, ?_⟩, ?_⟩
  · rintro ⟨report, after, run⟩
    obtain ⟨other, runOther, each⟩ := loads.1 run
    exact ⟨report, other, runOther, fun kind => (each kind).1⟩
  · rintro ⟨report, after, run, complete⟩
    refine ⟨report, ⟨(after.registry .objectClass).under .reject,
      (after.registry .attributeType).under .reject⟩, loads.2 ⟨after, run, fun kind => ?_⟩⟩
    refine ⟨complete kind, ?_⟩
    cases kind <;> rfl
  · intro report reportStrict after afterStrict run runStrict
    obtain ⟨other, again, each⟩ := loads.1 runStrict
    obtain ⟨rfl, rfl⟩ := Prod.mk.inj (Except.ok.inj (run.symm.trans again))
    refine ⟨rfl, fun kind => ?_⟩
    rw [(each kind).2]
    exact ⟨rfl, rfl⟩

end Counterparts

end Schema

namespace Sample

def personAlone : Bundle where
  sources := [("person.json", "\x7b\"objectClasses\": [\x7b\"oid\": \"2.5.6.6\", " ++
    "\"names\": [\"person\"], \"sup\": [\"2.5.6.0\"]\x7d]\x7d")]

/-- The one document goes into any schema that takes its one definition. -/
theorem load_personAlone (listing : Listing) {schema after : Schema} (sound : schema.Sound)
    (registers : (schema.registry .objectClass).register person =
      .ok (person, after.registry .objectClass))
    (kept : after.registry .attributeType = schema.registry .attributeType) :
    ∃ report, personAlone.loadBy listing schema = .ok (report, after) := by
  have decoded : personAlone.documents =
      .ok [("person.json", { objectClasses := [person.toEntry] })] := by decide +kernel
  have stands : ∀ kind, Bundle.Stands kind
      (Bundle.entries [("person.json", { objectClasses := [person.toEntry] })] kind)
      (if kind = .objectClass then [person] else []) := by
    intro kind
    cases kind with
    | objectClass => exact .cons (by decide +kernel) .nil
    | attributeType => exact .nil
  refine ⟨_, (Bundle.loadBy_iff sound decoded stands).2 ⟨rfl, fun kind => ⟨_, .refl _, ?_⟩⟩⟩
  cases kind with
  | objectClass => exact Bundle.registerAll_cons_eq_ok_iff.2 ⟨_, _, registers, rfl⟩
  | attributeType => exact congrArg Except.ok kept.symm

/-- A schema with one object class, under a policy. -/
def topSchema (policy : Policy) : Schema :=
  ⟨strictTop.under policy, { kind := .attributeType, policy }⟩

theorem topSchema_reached (policy : Policy) : (topSchema policy).Reached := by
  have registers : (Schema.empty policy).registerIn .objectClass top = .ok (top, topSchema policy) :=
    Schema.registerIn_eq_ok_iff.2
      ⟨_, (Registry.Reached.empty _ _).register_under register_strictTop (Or.inr (by simp [top])), rfl⟩
  exact (Schema.Reached.empty policy).registerIn registers

end Sample

/-- The superior is registered in the first two schemas, and missing in the others. -/
theorem Schema.Reached.load_policies_personAlone :
    (∃ report after afterStrict,
      Sample.personAlone.loadBy .sorted (Sample.topSchema .defer) = .ok (report, after) ∧
      Sample.personAlone.loadBy Sample.backwards (Sample.topSchema .reject) =
        .ok (report, afterStrict) ∧
      afterStrict.objectClasses.index = after.objectClasses.index) ∧
    (∃ report after, Sample.personAlone.loadBy .sorted (Schema.empty .defer) = .ok (report, after)) ∧
    ¬ ∃ report after,
      Sample.personAlone.loadBy Sample.backwards (Schema.empty .reject) = .ok (report, after) := by
  constructor
  · obtain ⟨strictly, alike⟩ := load_policies (Sample.topSchema_reached .defer)
      (Sample.topSchema_reached .reject) (by rintro (_ | _) <;> rfl) (by rintro (_ | _) <;> rfl)
      (by rintro (_ | _) oid <;> rfl) Sample.personAlone .sorted Sample.backwards
    obtain ⟨reportStrict, runStrict⟩ := @Sample.load_personAlone Sample.backwards
      (Sample.topSchema .reject) ⟨Sample.strictBoth, { kind := .attributeType, policy := .reject }⟩
      (Sample.topSchema_reached .reject).sound Sample.register_strictBoth rfl
    obtain ⟨report, after, run, _⟩ := strictly.1 ⟨_, _, runStrict⟩
    obtain ⟨rfl, each⟩ := alike _ _ _ _ run runStrict
    exact ⟨_, _, _, run, runStrict, (each .objectClass).2⟩
  · obtain ⟨strictly, _⟩ := load_policies (.empty .defer) (.empty .reject)
      (by rintro (_ | _) <;> rfl) (by rintro (_ | _) <;> rfl) (by rintro (_ | _) oid <;> rfl)
      Sample.personAlone .sorted Sample.backwards
    obtain ⟨report, run⟩ := @Sample.load_personAlone .sorted (Schema.empty .defer)
      ⟨Sample.waiting, { kind := .attributeType }⟩ (Schema.Reached.empty .defer).sound
      Sample.register_person rfl
    refine ⟨⟨_, _, run⟩, fun takes => ?_⟩
    obtain ⟨_, _, again, complete⟩ := strictly.1 takes
    obtain ⟨_, rfl⟩ := Prod.mk.inj (Except.ok.inj (run.symm.trans again))
    have stored := complete .objectClass "2.5.6.6" Sample.person (by decide +kernel)
      (by decide +kernel) "2.5.6.0" List.mem_cons_self
    exact absurd stored (by decide +kernel)

end Subschema
