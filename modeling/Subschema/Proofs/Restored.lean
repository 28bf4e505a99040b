import Subschema.Proofs.Encoding
import Subschema.Proofs.Schemas

namespace Subschema

open Relation

theorem map_trim_of_plain {texts : List String} (plain : ∀ s ∈ texts, ∀ c ∈ s.toList, Text.Plain c) :
    texts.map Text.trim = texts :=
  (List.map_congr_left fun s member => Text.trim_of_plain (plain s member)).trans (List.map_id texts)

/-- A definition in canonical form is read from its entry as it was. -/
theorem Definition.Canonical.toDefinition_toEntry {d : Definition} {kind : Kind}
    (canonical : d.Canonical kind) : d.toEntry.toDefinition kind = .ok d := by
  have names : d.names.map Text.trim = d.names := map_trim_of_plain fun name member =>
    Definition.plain_of_mem_spellings canonical.named name (List.mem_cons_of_mem _ member)
  have superiors : d.superiors.map Text.trim = d.superiors := map_trim_of_plain fun superior member =>
    plain_of_isNumericOid (canonical.numeric superior member)
  rw [Entry.toDefinition, Definition.toEntry, Oid.parse_text]
  simp only [Except.map, names, superiors, ← canonical.fits]

namespace Registry

/-- One registry, in which superiors may wait, holds what another one does but for some definitions. -/
structure Lacks (part registry : Registry) (rest : List Definition) : Prop where
  kind : part.kind = registry.kind
  policy : part.policy = .defer
  stored : ∀ oid d, part.store.get? oid = some d ↔ registry.store.get? oid = some d ∧ d ∉ rest

/-- The registry as it would be if superiors might wait. -/
abbrev deferring (registry : Registry) : Registry := { registry with policy := .defer }

theorem Lacks.eq_deferring {part registry : Registry} (lacks : part.Lacks registry [])
    (between : part.Reached) (reached : registry.Reached) : part = registry.deferring := by
  have sound : registry.deferring.Sound :=
    ⟨reached.sound.coherent, reached.sound.current, reached.sound.acyclic, reached.sound.numeric⟩
  refine between.sound.eq_of_get? sound lacks.kind lacks.policy fun oid => Option.ext fun d => ?_
  simpa using lacks.stored oid d

/-- What is still lacking is taken as it is, whichever of the others have been taken before it. -/
theorem Lacks.register {part registry : Registry} {d : Definition} {rest : List Definition}
    (lacks : part.Lacks registry (d :: rest)) (between : part.Reached) (reached : registry.Reached)
    (stored : registry.store.get? d.oid.text = some d) (once : d ∉ rest) :
    ∃ next, part.register d = .ok (d, next) ∧ next.Lacks registry rest := by
  have absent : part.store.get? d.oid.text = none := by
    refine Option.eq_none_iff_forall_ne_some.2 fun e held => ?_
    obtain ⟨again, other⟩ := (lacks.stored _ _).1 held
    cases Option.some.inj (stored.symm.trans again)
    exact other List.mem_cons_self
  have within : ∀ oid e, part.store.get? oid = some e → registry.store.get? oid = some e :=
    fun oid e held => ((lacks.stored oid e).1 held).1
  obtain ⟨next, run⟩ := (reached.accepts_stored between lacks.kind within stored absent
    fun _ _ => Or.inr lacks.policy).register
  obtain ⟨kind, policy, inserted⟩ := get?_register run
  refine ⟨next, run, kind.trans lacks.kind, policy.trans lacks.policy, fun oid e => ?_⟩
  -- What is new is stored under its own identifier, so under any other nothing has changed.
  rw [inserted]
  by_cases own : oid = d.oid.text
  · subst own
    rw [if_pos rfl, stored]
    constructor
    · intro same
      cases Option.some.inj same
      exact ⟨rfl, once⟩
    · exact fun held => held.1
  · rw [if_neg own, lacks.stored, List.mem_cons, not_or]
    have other : registry.store.get? oid = some e → e ≠ d := by
      rintro held rfl
      exact own (reached.sound.coherent.keyed held).symm
    constructor
    · rintro ⟨held, _, missing⟩
      exact ⟨held, missing⟩
    · rintro ⟨held, missing⟩
      exact ⟨held, other held, missing⟩

theorem Lacks.registerAll {part registry : Registry} {rest : List Definition}
    (lacks : part.Lacks registry rest) (between : part.Reached) (reached : registry.Reached)
    (stored : ∀ d ∈ rest, registry.store.get? d.oid.text = some d) (once : rest.Nodup) :
    Bundle.registerAll part rest = .ok registry.deferring := by
  induction rest generalizing part with
  | nil =>
    rw [lacks.eq_deferring between reached]
    rfl
  | cons d rest ih =>
    obtain ⟨own, later⟩ := List.forall_mem_cons.1 stored
    obtain ⟨fresh, once⟩ := List.nodup_cons.1 once
    obtain ⟨next, run, lacking⟩ := lacks.register between reached own fresh
    exact Bundle.registerAll_cons_eq_ok_iff.2
      ⟨d, next, run, ih lacking (between.register run) later once⟩

/-- All that a registry holds, registered anew in any order. -/
theorem Reached.registerAll_toList {registry : Registry} (reached : registry.Reached)
    {order : List Definition} (same : order.Perm registry.store.toList) :
    Bundle.registerAll { kind := registry.kind, policy := .defer } order =
      .ok registry.deferring := by
  have coherent := reached.sound.coherent
  have lacks : Lacks { kind := registry.kind, policy := .defer } registry order := by
    refine ⟨rfl, rfl, fun oid d => ?_⟩
    have listed : registry.store.get? oid = some d → d ∈ order := fun stored =>
      same.mem_iff.2 (coherent.get?_eq_some_iff.1 stored).1
    simpa [Store.get?] using fun stored => listed stored
  refine lacks.registerAll (.empty _ _) reached (fun d member => ?_) ?_
  · exact coherent.mem_toList.1 (same.mem_iff.1 member)
  · exact same.nodup_iff.2 coherent.nodup_toList.of_map

end Registry

namespace Schema

/-- The schema as it would be if superiors might wait. -/
def deferring (schema : Schema) : Schema :=
  ⟨schema.objectClasses.deferring, schema.attributeTypes.deferring⟩

theorem registry_deferring (schema : Schema) (kind : Kind) :
    schema.deferring.registry kind = (schema.registry kind).deferring := by
  cases kind <;> rfl

/-- The entries of what is stored stand for it. -/
theorem Reached.stands_toEntry {schema : Schema} (reached : schema.Reached) (kind : Kind) :
    Bundle.Stands kind ((schema.registry kind).store.toList.map Definition.toEntry)
      (schema.registry kind).store.toList := by
  refine List.forall₂_map_left_iff.2 (List.forall₂_same.2 fun d member => ?_)
  have registered := reached.sound kind
  have stored := registered.sound.coherent.mem_toList.1 member
  have canonical := registered.canonical _ d stored
  rw [reached.kind_registry kind] at canonical
  exact canonical.toDefinition_toEntry

theorem Reached.registerAll_empty {schema : Schema} (reached : schema.Reached) {kind : Kind}
    {order : List Definition} (same : order.Perm (schema.registry kind).store.toList) :
    Bundle.registerAll ((Schema.empty .defer).registry kind) order =
      .ok (schema.deferring.registry kind) := by
  have made := (reached.sound kind).registerAll_toList same
  rw [reached.kind_registry kind, ← registry_deferring] at made
  cases kind with
  | objectClass => exact made
  | attributeType => exact made

/-- The entries of all definitions of a schema, in any order and as the text of one document, make the
schema again when they are loaded into an empty one in which superiors may wait: definitions, names, and
indexes are the same, also where superiors are missing in a schema that would not have let them wait. -/
theorem Reached.restored {schema : Schema} (reached : schema.Reached) {document : Document}
    (entries : ∀ kind, (document.entries kind).Perm
      ((schema.registry kind).store.toList.map Definition.toEntry)) (origin : String) :
    ∃ report, (({} : Bundle).addText origin document.toJson.render).load (Schema.empty .defer) =
        .ok (report, ⟨{ schema.objectClasses with policy := .defer },
          { schema.attributeTypes with policy := .defer }⟩) ∧
      report.objectClasses = schema.objectClasses.size ∧
      report.attributeTypes = schema.attributeTypes.size := by
  have decoded : (({} : Bundle).addText origin document.toJson.render).documents =
      .ok [(origin, document)] :=
    mapM_eq_ok_iff.2 (.cons (by simp only [Document.read?_render]) .nil)
  have listed : ∀ kind, Bundle.entries [(origin, document)] kind = document.entries kind :=
    fun kind => List.append_nil _
  have counted : ∀ kind, (Bundle.entries [(origin, document)] kind).length =
      (schema.registry kind).size := by
    intro kind
    rw [listed, (entries kind).length_eq, List.length_map, Store.toList, List.length_map,
      Std.ExtTreeMap.length_toList, Registry.size, Store.size]
  choose batch stands same using fun kind => (reached.stands_toEntry kind).perm (entries kind)
  have read : ∀ kind, Bundle.Stands kind (Bundle.entries [(origin, document)] kind) (batch kind) :=
    fun kind => (listed kind).symm ▸ stands kind
  have run : (({} : Bundle).addText origin document.toJson.render).load (Schema.empty .defer) =
      .ok (_, schema.deferring) :=
    (Bundle.loadBy_iff (Reached.empty .defer).sound decoded read).2
      ⟨rfl, fun kind => ⟨batch kind, .refl _, reached.registerAll_empty (same kind)⟩⟩
  exact ⟨_, run, counted .objectClass, counted .attributeType⟩

end Schema

namespace Sample

def orphanedSchema : Schema := ⟨orphaned, { kind := .attributeType, policy := .reject }⟩

def orphanedDocument : Document := { name := some "\"core\" of\n2024", objectClasses := [person.toEntry] }

theorem orphanedSchema_reached : orphanedSchema.Reached := by
  have first : (Schema.empty .reject).registerIn .objectClass top =
      .ok (top, ⟨strictTop, { kind := .attributeType, policy := .reject }⟩) :=
    Schema.registerIn_eq_ok_iff.2 ⟨_, register_strictTop, rfl⟩
  have second : Schema.registerIn ⟨strictTop, { kind := .attributeType, policy := .reject }⟩
      .objectClass person = .ok (person, ⟨strictBoth, { kind := .attributeType, policy := .reject }⟩) :=
    Schema.registerIn_eq_ok_iff.2 ⟨_, register_strictBoth, rfl⟩
  have third : Schema.unregister ⟨strictBoth, { kind := .attributeType, policy := .reject }⟩
      .objectClass "top" = .ok (top, orphanedSchema) :=
    Schema.unregister_eq_ok_iff.2 ⟨_, unregister_orphaned, rfl⟩
  exact (((Schema.Reached.empty .reject).registerIn first).registerIn second).unregister third

end Sample

/-- A schema that lets no superior wait, from which a superior has been removed. -/
theorem Schema.Reached.restored_orphaned :
    ∃ report, (({} : Bundle).addText "core.json" Sample.orphanedDocument.toJson.render).load
        (Schema.empty .defer) =
      .ok (report, ⟨{ Sample.orphaned with policy := .defer }, { kind := .attributeType }⟩) ∧
      report.objectClasses = 1 ∧ report.attributeTypes = 0 := by
  have entries : ∀ kind, (Sample.orphanedDocument.entries kind).Perm
      ((Sample.orphanedSchema.registry kind).store.toList.map Definition.toEntry) := by
    intro kind
    cases kind with
    | objectClass => decide +kernel
    | attributeType => decide +kernel
  obtain ⟨report, run, classes, types⟩ := restored Sample.orphanedSchema_reached entries "core.json"
  have one : Sample.orphaned.size = 1 := by decide +kernel
  exact ⟨report, run, classes.trans one, types.trans rfl⟩

end Subschema
