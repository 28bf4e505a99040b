import Subschema.Proofs.Reinstated
import Subschema.Proofs.Staging

namespace Subschema

namespace Schema

open InPlace

theorem registerIn_eq_ok_iff {schema after : Schema} {kind : Kind} {d stored : Definition} :
    schema.registerIn kind d = .ok (stored, after) ↔
      ∃ registry, (schema.registry kind).register d = .ok (stored, registry) ∧
        after = schema.setRegistry kind registry := by
  rw [registerIn, map_eq_ok_iff]
  constructor
  · rintro ⟨⟨_, registry⟩, run, same⟩
    obtain ⟨rfl, rfl⟩ := Prod.mk.inj same
    exact ⟨registry, run, rfl⟩
  · rintro ⟨registry, run, rfl⟩
    exact ⟨(stored, registry), run, rfl⟩

theorem unregister_eq_ok_iff {schema after : Schema} {kind : Kind} {name : String}
    {d : Definition} :
    schema.unregister kind name = .ok (d, after) ↔
      ∃ registry, (schema.registry kind).unregister name = .ok (d, registry) ∧
        after = schema.setRegistry kind registry := by
  rw [Schema.unregister, map_eq_ok_iff]
  constructor
  · rintro ⟨⟨_, registry⟩, run, same⟩
    obtain ⟨rfl, rfl⟩ := Prod.mk.inj same
    exact ⟨registry, run, rfl⟩
  · rintro ⟨registry, run, rfl⟩
    exact ⟨(d, registry), run, rfl⟩

/-- A change of a schema, in the registry of a kind or by loading documents. What a load goes through is
not in any order of its own, so the order that it finds belongs to the step. -/
inductive Step where
  | register (kind : Kind) (d : Definition)
  | unregister (kind : Kind) (name : String)
  | load (bundle : Bundle) (listing : Listing)

inductive Answer where
  | definition (d : Definition)
  | report (report : Report)
  deriving DecidableEq

def perform (schema : Schema) : Step → Except Error (Answer × Schema)
  | .register kind d => (schema.registerIn kind d).map fun (d, after) => (.definition d, after)
  | .unregister kind name =>
    (schema.unregister kind name).map fun (d, after) => (.definition d, after)
  | .load bundle listing =>
    (bundle.loadBy listing schema).map fun (report, after) => (.report report, after)

/-- Carries out a change on the registry of a kind in place. -/
def inRegistry {α : Type} (kind : Kind) (change : InPlace Registry α) : InPlace Schema α :=
  within (fun schema => schema.registry kind) (fun schema registry => schema.setRegistry kind registry)
    change

/-- Carries out a step in place. -/
def Step.inPlace : Step → InPlace Schema Answer
  | .register kind d => do
    let stored ← inRegistry kind (Registry.registerInPlace d)
    return .definition stored
  | .unregister kind name => do
    let removed ← inRegistry kind (Registry.unregisterInPlace name)
    return .definition removed
  | .load bundle listing => do
    let report ← bundle.loadInPlace listing
    return .report report

theorem perform_load {schema after : Schema} {bundle : Bundle} {listing : Listing} {report : Report}
    (run : bundle.loadBy listing schema = .ok (report, after)) :
    schema.perform (.load bundle listing) = .ok (.report report, after) := by
  rw [perform, run]
  rfl

theorem setRegistry_registry (schema : Schema) (kind : Kind) :
    schema.setRegistry kind (schema.registry kind) = schema := by
  cases kind <;> rfl

/-- A step that fails leaves the schema as it was. -/
theorem Step.run_inPlace (step : Step) (schema : Schema) :
    step.inPlace.run schema =
      match schema.perform step with
      | .ok (answer, after) => .ok answer after
      | .error e => .error e schema := by
  cases step with
  | register kind d =>
    rw [inPlace, EStateM.run_bind, inRegistry, run_within, Registry.run_registerInPlace, perform,
      registerIn]
    cases (schema.registry kind).register d with
    | ok done => rfl
    | error e =>
      simp only [setRegistry_registry]
      rfl
  | unregister kind name =>
    rw [inPlace, EStateM.run_bind, inRegistry, run_within, Registry.run_unregisterInPlace, perform,
      Schema.unregister]
    cases (schema.registry kind).unregister name with
    | ok done => rfl
    | error e =>
      simp only [setRegistry_registry]
      rfl
  | load bundle listing =>
    rw [inPlace, EStateM.run_bind, Bundle.run_loadInPlace, perform]
    cases bundle.loadBy listing schema <;> rfl

/-- A step in place succeeds as the step does, with the same answer and schema. -/
theorem Step.run_inPlace_eq_ok_iff {step : Step} {schema after : Schema} {answer : Answer} :
    step.inPlace.run schema = .ok answer after ↔ schema.perform step = .ok (answer, after) := by
  rw [step.run_inPlace]
  cases schema.perform step <;> simp [Prod.ext_iff]

theorem Step.run_inPlace_eq_error_iff {step : Step} {schema last : Schema} {e : Error} :
    step.inPlace.run schema = .error e last ↔ schema.perform step = .error e ∧ last = schema := by
  rw [step.run_inPlace]
  cases schema.perform step <;> simp [eq_comm]

/-- What may be done to a schema in use. -/
inductive Call where
  | step (step : Step)
  | copy

/-- The schema that a call leaves, whether it succeeds or fails. -/
def after (schema : Schema) : Call → Schema
  | .step step =>
    match step.inPlace.run schema with
    | .ok _ after => after
    | .error _ after => after
  | .copy => schema.copy

/-- The schemas that calls lead to from an empty one. -/
inductive Reached : Schema → Prop
  | empty (policy : Policy) : Reached (empty policy)
  | next {schema : Schema} (call : Call) : Reached schema → Reached (schema.after call)

/-- What a change of a schema does to either registry: it registers definitions, perhaps none, or removes
one. -/
inductive Becomes (registry : Registry) : Registry → Prop
  | registers {batch : List Definition} {after : Registry} :
      Bundle.registerAll registry batch = .ok after → Becomes registry after
  | removes {name : String} {d : Definition} {after : Registry} :
      registry.unregister name = .ok (d, after) → Becomes registry after

theorem Becomes.refl (registry : Registry) : Becomes registry registry :=
  .registers (show Bundle.registerAll registry [] = .ok registry from rfl)

theorem Becomes.reached {registry after : Registry} (becomes : Becomes registry after)
    (reached : registry.Reached) : after.Reached := by
  cases becomes with
  | registers run => exact (Bundle.extends_of_registerAll reached run).1
  | removes run => exact reached.unregister run

theorem Becomes.kind {registry after : Registry} (becomes : Becomes registry after)
    (reached : registry.Reached) : after.kind = registry.kind := by
  cases becomes with
  | registers run => exact (Bundle.extends_of_registerAll reached run).2.kind
  | removes run => exact (reached.get?_unregister run).1

theorem becomes_setRegistry {schema : Schema} {kind : Kind} {registry : Registry}
    (becomes : Becomes (schema.registry kind) registry) (other : Kind) :
    Becomes (schema.registry other) ((schema.setRegistry kind registry).registry other) := by
  rw [registry_setRegistry]
  split
  · rename_i same
    exact same ▸ becomes
  · exact .refl _

theorem becomes_of_registerIn {schema after : Schema} {kind : Kind} {d stored : Definition}
    (run : schema.registerIn kind d = .ok (stored, after)) (other : Kind) :
    Becomes (schema.registry other) (after.registry other) := by
  obtain ⟨registry, registers, rfl⟩ := registerIn_eq_ok_iff.1 run
  have alone : Bundle.registerAll (schema.registry kind) [d] = .ok registry :=
    Bundle.registerAll_cons_eq_ok_iff.2 ⟨stored, registry, registers, rfl⟩
  exact becomes_setRegistry (.registers alone) other

theorem becomes_of_unregister {schema after : Schema} {kind : Kind} {name : String} {d : Definition}
    (run : schema.unregister kind name = .ok (d, after)) (other : Kind) :
    Becomes (schema.registry other) (after.registry other) := by
  obtain ⟨registry, removes, rfl⟩ := unregister_eq_ok_iff.1 run
  exact becomes_setRegistry (.removes removes) other

theorem Sound.becomes_of_load {schema after : Schema} (sound : schema.Sound) {bundle : Bundle}
    {listing : Listing} {report : Report} (run : bundle.loadBy listing schema = .ok (report, after))
    (kind : Kind) : Becomes (schema.registry kind) (after.registry kind) := by
  obtain ⟨_, _, _, each⟩ := (Bundle.loadBy_eq_ok_iff sound).1 run
  obtain ⟨batch, _, registers⟩ := each kind
  obtain ⟨order, _, registers⟩ := (Bundle.registerBatch_eq_ok_iff listing (sound kind)).1 registers
  exact .registers registers

/-- A step has each registry of a schema go through calls. -/
theorem Sound.becomes_of_perform {schema after : Schema} (sound : schema.Sound) {step : Step}
    {answer : Answer} (run : schema.perform step = .ok (answer, after)) (kind : Kind) :
    Becomes (schema.registry kind) (after.registry kind) := by
  cases step with
  | register other d =>
    obtain ⟨⟨_, _⟩, registers, same⟩ := map_eq_ok_iff.1 run
    cases same
    exact becomes_of_registerIn registers kind
  | unregister other name =>
    obtain ⟨⟨_, _⟩, removes, same⟩ := map_eq_ok_iff.1 run
    cases same
    exact becomes_of_unregister removes kind
  | load bundle listing =>
    obtain ⟨⟨_, _⟩, loads, same⟩ := map_eq_ok_iff.1 run
    cases same
    exact sound.becomes_of_load loads kind

theorem Sound.becomes_after {schema : Schema} (sound : schema.Sound) (call : Call) (kind : Kind) :
    Becomes (schema.registry kind) ((schema.after call).registry kind) := by
  unfold Schema.after
  split
  · split
    · rename_i run
      exact sound.becomes_of_perform (Step.run_inPlace_eq_ok_iff.1 run) kind
    · rename_i run
      rw [(Step.run_inPlace_eq_error_iff.1 run).2]
      exact .refl _
  · rw [sound.copy_eq]
    exact .refl _

/-- A call leaves a sound schema sound, also when it fails. -/
theorem Sound.after {schema : Schema} (sound : schema.Sound) (call : Call) :
    (schema.after call).Sound :=
  fun kind => (sound.becomes_after call kind).reached (sound kind)

/-- Both registries of a schema are reached, whatever calls have led to it. -/
theorem Reached.sound {schema : Schema} (reached : schema.Reached) : schema.Sound := by
  induction reached with
  | empty policy =>
    intro kind
    cases kind with
    | objectClass => exact .empty _ _
    | attributeType => exact .empty _ _
  | next call _ ih => exact ih.after call

theorem Reached.perform {schema after : Schema} (reached : schema.Reached) {step : Step}
    {answer : Answer} (run : schema.perform step = .ok (answer, after)) : after.Reached := by
  have next := reached.next (.step step)
  simpa only [Schema.after, Step.run_inPlace_eq_ok_iff.2 run] using next

theorem Reached.registerIn {schema after : Schema} (reached : schema.Reached) {kind : Kind}
    {d stored : Definition} (run : schema.registerIn kind d = .ok (stored, after)) : after.Reached :=
  reached.perform (show schema.perform (.register kind d) = _ by rw [Schema.perform, run]; rfl)

theorem Reached.unregister {schema after : Schema} (reached : schema.Reached) {kind : Kind}
    {name : String} {d : Definition} (run : schema.unregister kind name = .ok (d, after)) :
    after.Reached :=
  reached.perform (show schema.perform (.unregister kind name) = _ by rw [Schema.perform, run]; rfl)

/-- A schema that has been loaded into is reached. -/
theorem Reached.load {schema after : Schema} (reached : schema.Reached) {bundle : Bundle}
    {listing : Listing} {report : Report} (run : bundle.loadBy listing schema = .ok (report, after)) :
    after.Reached :=
  reached.perform (perform_load run)

/-- A registry is always of the kind that it is kept for. -/
theorem Reached.kind_registry {schema : Schema} (reached : schema.Reached) (kind : Kind) :
    (schema.registry kind).kind = kind := by
  induction reached with
  | empty policy => cases kind <;> rfl
  | next call between own =>
    exact ((between.sound.becomes_after call kind).kind (between.sound kind)).trans own

/-- Loading is complete and free of order. With `batch` what the entries of a bundle stand for: the
bundle is loaded exactly if for each kind there is some order in which the definitions can be
registered one after the other; the registries are then those that any such order leaves, with all
that was registered kept as it was, and the report counts what was added. Neither the order of the
documents and of the entries, within documents or across them, matters, nor the order in which a load
goes through what is registered. A load is carried out on a copy, in place; one that fails leaves the
schema as it was. -/
theorem Reached.load_exact {schema : Schema} (reached : schema.Reached) {bundle : Bundle}
    {documents : List (String × Document)} (decoded : bundle.documents = .ok documents)
    (parses : ∀ kind, ∀ entry ∈ Bundle.entries documents kind,
      ∃ oid, Oid.parse entry.oid = .ok oid) :
    ∃ batch : Kind → List Definition,
      (∀ kind, List.Forall₂ (fun entry d => entry.toDefinition kind = .ok d)
        (Bundle.entries documents kind) (batch kind)) ∧
      (∀ listing, (∃ report after, bundle.loadBy listing schema = .ok (report, after)) ↔
        ∀ kind, ∃ order after, order.Perm (batch kind) ∧
          Bundle.registerAll (schema.registry kind) order = .ok after) ∧
      (∀ listing report after, bundle.loadBy listing schema = .ok (report, after) →
        (∀ kind order registry, order.Perm (batch kind) →
          Bundle.registerAll (schema.registry kind) order = .ok registry →
          after.registry kind = registry) ∧
        (∀ kind oid d, (schema.registry kind).store.get? oid = some d →
          (after.registry kind).store.get? oid = some d) ∧
        report.objectClasses = (Bundle.entries documents .objectClass).length ∧
        report.attributeTypes = (Bundle.entries documents .attributeType).length ∧
        after.objectClasses.size = schema.objectClasses.size + report.objectClasses ∧
        after.attributeTypes.size = schema.attributeTypes.size + report.attributeTypes) ∧
      (∀ listing relisting report after, bundle.loadBy listing schema = .ok (report, after) ↔
        bundle.loadBy relisting schema = .ok (report, after)) ∧
      (∀ other : Bundle, other.sources.Perm bundle.sources → ∀ listing relisting after,
        (∃ report, bundle.loadBy listing schema = .ok (report, after)) ↔
          ∃ report, other.loadBy relisting schema = .ok (report, after)) ∧
      (∀ (other : Bundle) others, other.documents = .ok others →
        (∀ kind, (Bundle.entries others kind).Perm (Bundle.entries documents kind)) →
        ∀ listing relisting after,
          (∃ report, bundle.loadBy listing schema = .ok (report, after)) ↔
            ∃ report, other.loadBy relisting schema = .ok (report, after)) ∧
      ∀ listing,
        (∀ report after, (bundle.loadInPlace listing).run schema = .ok report after ↔
          bundle.loadBy listing schema = .ok (report, after)) ∧
        ∀ e after, (bundle.loadInPlace listing).run schema = .error e after ↔
          bundle.loadBy listing schema = .error e ∧ after = schema := by
  have sound := reached.sound
  choose batch stands using fun kind => Bundle.exists_stands (parses kind)
  refine ⟨batch, stands, fun listing => ⟨?_, ?_⟩, ?_, fun listing relisting report after => ?_, ?_, ?_,
    fun listing => ⟨fun report after => ?_, fun e after => ?_⟩⟩
  · rintro ⟨report, after, run⟩ kind
    obtain ⟨_, each⟩ := (Bundle.loadBy_iff sound decoded stands).1 run
    obtain ⟨order, perm, registers⟩ := each kind
    exact ⟨order, _, perm, registers⟩
  · intro each
    choose order registry perm registers using each
    refine ⟨_, ⟨registry .objectClass, registry .attributeType⟩,
      (Bundle.loadBy_iff sound decoded stands).2 ⟨rfl, fun kind => ⟨order kind, perm kind, ?_⟩⟩⟩
    cases kind with
    | objectClass => exact registers .objectClass
    | attributeType => exact registers .attributeType
  · intro listing report after run
    obtain ⟨rfl, _⟩ := (Bundle.loadBy_iff sound decoded stands).1 run
    have grows := Bundle.size_of_loadBy sound decoded stands run
    exact ⟨fun _ _ _ perm registers => Bundle.registry_of_loadBy sound decoded stands run perm registers,
      fun kind => (Bundle.extends_of_loadBy sound decoded stands run kind).kept, rfl, rfl,
      grows .objectClass, grows .attributeType⟩
  · exact Bundle.loadBy_relisted sound listing relisting
  · intro other perm listing relisting after
    obtain ⟨others, decodedOther, same⟩ := Bundle.documents_perm decoded perm
    exact Bundle.loadBy_perm sound decoded stands decodedOther (Bundle.entries_perm same)
  · intro other others decodedOther same listing relisting after
    exact Bundle.loadBy_perm sound decoded stands decodedOther same
  · rw [Bundle.run_loadInPlace]
    cases bundle.loadBy listing schema <;> simp [Prod.ext_iff]
  · rw [Bundle.run_loadInPlace]
    cases bundle.loadBy listing schema <;> simp [eq_comm]

end Schema

namespace Sample

def personByName : Definition := { person with superiors := ["Top"] }

def personEntry : Entry := { oid := "2.5.6.6", names := ["person"], superiors := [" Top "] }

def topEntry : Entry := { oid := " 2.5.6.0", names := ["top"] }

def wrongWayRound : Bundle where
  sources :=
    [("person.json", "\x7b\"objectClasses\": [\x7b\"oid\": \"2.5.6.6\", \"names\": [\"person\"], " ++
        "\"sup\": [\" Top \"]\x7d]\x7d"),
      ("top.json", "\x7b\"name\": \"core\", \"objectClasses\": [\x7b\"oid\": \" 2.5.6.0\", " ++
        "\"names\": [\"top\"]\x7d]\x7d")]

def wrongWayRoundDocuments : List (String × Document) :=
  [("person.json", { objectClasses := [personEntry] }),
    ("top.json", { name := some "core", objectClasses := [topEntry] })]

def strictSchema : Schema := ⟨strictBoth, { kind := .attributeType, policy := .reject }⟩

theorem register_personByName : strictTop.register personByName = .ok (person, strictBoth) := by
  obtain ⟨passes, stores⟩ := Registry.register_eq_ok_iff.1 register_strictBoth
  obtain ⟨_, _, _, superiors, _, apart, same⟩ := Registry.prepare_eq_ok_iff.1 passes
  have named : person.superiors = superiors := congrArg Definition.superiors same
  exact Registry.register_eq_ok_iff.2 ⟨Registry.prepare_eq_ok_iff.2 ⟨rfl, by decide,
    by decide +kernel, person.superiors, by decide +kernel, named ▸ apart, rfl⟩, stores⟩

end Sample

/-- The definitions of each registry, backwards. -/
def Sample.backwards : Listing where
  list := fun registry => registry.store.toList.reverse
  perm := fun _ => List.reverse_perm _

/-- The definition goes in after its superior. Loaded once more it is refused. -/
theorem Schema.Reached.load_exact_wrongWayRound :
    ∃ report e, report.objectClasses = 2 ∧
      (Sample.wrongWayRound.loadInPlace .sorted).run (Schema.empty .reject) =
        .ok report Sample.strictSchema ∧
      (Sample.wrongWayRound.loadInPlace Sample.backwards).run Sample.strictSchema =
        .error e Sample.strictSchema := by
  have decoded : Sample.wrongWayRound.documents = .ok Sample.wrongWayRoundDocuments := by
    decide +kernel
  have parses : ∀ kind, ∀ entry ∈ Bundle.entries Sample.wrongWayRoundDocuments kind,
      ∃ oid, Oid.parse entry.oid = .ok oid := by
    rintro (_ | _) entry member
    · have listed : entry ∈ [Sample.personEntry, Sample.topEntry] := member
      rcases List.mem_cons.1 listed with rfl | listed
      · exact ⟨Sample.person.oid, by decide +kernel⟩
      · rw [List.mem_singleton.1 listed]
        exact ⟨Sample.top.oid, by decide +kernel⟩
    · exact absurd member List.not_mem_nil
  have both : Bundle.Stands .objectClass [Sample.personEntry, Sample.topEntry]
      [Sample.personByName, Sample.top] :=
    .cons (by decide +kernel) (.cons (by decide +kernel) .nil)
  obtain ⟨batch, stands, succeeds, results, _, _, _, inPlace⟩ :=
    load_exact (.empty .reject) decoded parses
  have classes : batch .objectClass = [Sample.personByName, Sample.top] :=
    Bundle.Stands.unique (stands .objectClass) both
  have types : batch .attributeType = [] := Bundle.Stands.unique (stands .attributeType) .nil
  have superiorsFirst : Bundle.registerAll ((Schema.empty .reject).registry .objectClass)
      [Sample.top, Sample.personByName] = .ok Sample.strictBoth :=
    Bundle.registerAll_cons_eq_ok_iff.2 ⟨_, _, Sample.register_strictTop,
      Bundle.registerAll_cons_eq_ok_iff.2 ⟨_, _, Sample.register_personByName, rfl⟩⟩
  have swapped : [Sample.top, Sample.personByName].Perm (batch .objectClass) := by
    rw [classes]
    exact .swap _ _ _
  obtain ⟨report, after, run⟩ := (succeeds .sorted).2 fun kind => by
    cases kind with
    | objectClass => exact ⟨_, _, swapped, superiorsFirst⟩
    | attributeType => exact ⟨[], _, types ▸ .nil, rfl⟩
  obtain ⟨same, _, counts, _⟩ := results .sorted report after run
  have whole : after = Sample.strictSchema := ext_registry fun kind => by
    cases kind with
    | objectClass => exact same .objectClass _ _ swapped superiorsFirst
    | attributeType => exact same .attributeType [] _ (types ▸ .nil) rfl
  rw [whole] at run
  have reached : Sample.strictSchema.Reached := (Reached.empty .reject).load run
  have listed : Sample.top ∈ batch .objectClass := by
    rw [classes]
    exact List.mem_cons_of_mem _ List.mem_cons_self
  have held : (Sample.strictSchema.registry .objectClass).store.get? Sample.top.oid.text ≠ none := by
    decide +kernel
  obtain ⟨e, refused⟩ := Bundle.exists_loadBy_eq_error reached.sound decoded stands listed held
    Sample.backwards
  obtain ⟨_, _, _, _, _, _, _, inPlaceAgain⟩ := load_exact reached decoded parses
  exact ⟨report, e, counts, ((inPlace .sorted).1 report Sample.strictSchema).2 run,
    ((inPlaceAgain Sample.backwards).2 e Sample.strictSchema).2 ⟨refused, rfl⟩⟩

end Subschema
