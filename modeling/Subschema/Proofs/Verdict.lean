import Subschema.Proofs.References
import Subschema.Proofs.Reinstated
import Subschema.Proofs.Walks

namespace Subschema

open Relation

/-- A run of checks fails with the first item that does not pass. -/
theorem forM_eq_error_of_find? {ε β : Type} {check : β → Except ε Unit} {bad : β → Bool}
    {items : List β} {first : β} {e : ε}
    (passes : ∀ item ∈ items, bad item = false → check item = .ok ())
    (fails : check first = .error e) (found : items.find? bad = some first) :
    items.forM check = .error e := by
  rw [List.forM_eq_forM]
  induction items with
  | nil => simp at found
  | cons item items ih =>
    rw [List.forM_cons]
    rw [List.find?_cons] at found
    split at found
    · cases Option.some.inj found
      rw [fails]
      rfl
    · rename_i fine
      rw [passes item List.mem_cons_self fine,
        ← ih (fun other later => passes other (List.mem_cons_of_mem _ later)) found]
      rfl

namespace Registry

/-- Whether a registry can make anything of a superior reference of a definition. -/
def knows (registry : Registry) (d : Definition) (reference : String) : Bool :=
  d.hasName reference || registry.contains reference ||
    (registry.policy = .defer && isNumericOid (Text.trim reference).toList)

/-- A definition of the right kind with names that are names. -/
structure WellNamed (registry : Registry) (d : Definition) : Prop where
  fits : d.kind = registry.kind
  named : ∀ name ∈ d.names, isDescr name.toList = true

/-- None of what a definition is called by is taken. -/
structure Fresh (registry : Registry) (d : Definition) : Prop extends WellNamed registry d where
  absent : registry.store.contains d.oid.text = false
  free : ∀ name ∈ d.names, registry.contains name = false

/-- A definition that passes every check but the last, and the superiors that it would be stored with:
what its references stand for, each one where it comes first. -/
structure Vetted (registry : Registry) (d : Definition) (superiors : List String) : Prop
    extends Fresh registry d where
  resolves : ∃ found, List.Forall₂ (registry.Resolves d) d.superiors found ∧
    superiors = found.eraseDups

/-- A registry with one more definition, under its identifier and its keys. Everything else is as it
was, and the index is that of all definitions. -/
structure Adds (registry : Registry) (stored : Definition) (after : Registry) : Prop where
  kind : after.kind = registry.kind
  policy : after.policy = registry.policy
  definitions : ∀ oid, after.store.get? oid =
    if oid = stored.oid.text then some stored else registry.store.get? oid
  names : ∀ key, after.store.names.bindings[key]? =
    if key ∈ stored.keys then some stored.oid else registry.store.names.bindings[key]?
  index : after.index = .rebuild after.store

/-- What registering a definition has to come to. The cases are in the order of the checks, and each
but the first says that none of those before it applies. -/
inductive Verdict (registry : Registry) (d : Definition) :
    Except Error (Definition × Registry) → Prop
  | misfit (other : d.kind ≠ registry.kind) :
      Verdict registry d (.error (.wrongKind d.oid.text registry.kind d.kind))
  | misnamed {name : String} (fits : d.kind = registry.kind)
      (first : d.names.find? (fun name => !isDescr name.toList) = some name) :
      Verdict registry d (.error (.invalidName name))
  | stored (wellNamed : registry.WellNamed d) (known : registry.store.contains d.oid.text = true) :
      Verdict registry d (.error (.duplicateOid d.oid.text))
  | taken {name : String} {owner : Oid} (wellNamed : registry.WellNamed d)
      (absent : registry.store.contains d.oid.text = false)
      (first : d.names.find? registry.contains = some name)
      (bound : registry.resolve name = .ok owner) :
      Verdict registry d (.error (.duplicateName name owner.text))
  | unknown {reference : String} (fresh : registry.Fresh d)
      (first : d.superiors.find? (fun reference => !registry.knows d reference) = some reference) :
      Verdict registry d (.error (.nameNotFound (Text.trim reference)))
  | cyclic {superiors path : List String} (vetted : registry.Vetted d superiors)
      (back : ∃ superior ∈ superiors, ReflTransGen registry.store.Names superior d.oid.text) :
      Verdict registry d (.error (.cyclicHierarchy d.oid.text path))
  | accepted {superiors : List String} {after : Registry} (vetted : registry.Vetted d superiors)
      (apart : ∀ superior ∈ superiors, ¬ ReflTransGen registry.store.Names superior d.oid.text)
      (adds : registry.Adds { d with superiors } after) :
      Verdict registry d (.ok ({ d with superiors }, after))

theorem contains_eq_true_iff {registry : Registry} {name : String} :
    registry.contains name = true ↔ ∃ oid, registry.store.names.get? name = some oid := by
  rw [contains, NameMap.contains, Option.isSome_iff_exists]

theorem contains_eq_false_iff {registry : Registry} {name : String} :
    registry.contains name = false ↔ registry.store.names.get? name = none := by
  rw [contains, NameMap.contains, Option.isSome_eq_false_iff, Option.isNone_iff_eq_none]

theorem resolve_eq_ok_iff {registry : Registry} {name : String} {oid : Oid} :
    registry.resolve name = .ok oid ↔ registry.store.names.get? name = some oid := by
  unfold resolve NameMap.resolve
  cases registry.store.names.get? name <;> simp

/-- The references that stand for something are those that the registry knows. -/
theorem knows_iff {registry : Registry} {d : Definition} {reference : String} :
    registry.knows d reference = true ↔ ∃ superior, registry.Resolves d reference superior := by
  simp only [knows, Bool.or_eq_true, Bool.and_eq_true, decide_eq_true_eq]
  constructor
  · intro known
    cases self : d.hasName reference with
    | true => exact ⟨_, .own self⟩
    | false =>
      cases found : registry.store.names.get? reference with
      | some oid => exact ⟨_, .bound self found⟩
      | none =>
        obtain ⟨defers, numeric⟩ : registry.policy = .defer ∧
            isNumericOid (Text.trim reference).toList = true := by
          simpa [self, contains_eq_false_iff.2 found] using known
        exact ⟨_, .waits self found defers numeric⟩
  · rintro ⟨_, resolves⟩
    cases resolves with
    | own self => exact Or.inl (Or.inl self)
    | bound _ found => exact Or.inl (Or.inr (contains_eq_true_iff.2 ⟨_, found⟩))
    | waits _ _ defers numeric => exact Or.inr ⟨defers, numeric⟩

/-- An unknown reference is reported without the blanks around it. -/
theorem resolveSuperior_of_unknown {registry : Registry} {d : Definition} {reference : String}
    (unknown : registry.knows d reference = false) :
    registry.resolveSuperior d reference = .error (.nameNotFound (Text.trim reference)) := by
  simp only [knows, Bool.or_eq_false_iff, Bool.and_eq_false_imp, decide_eq_true_eq] at unknown
  obtain ⟨⟨foreign, free⟩, refused⟩ := unknown
  have unbound := contains_eq_false_iff.1 free
  unfold resolveSuperior NameMap.resolve
  simp only [Definition.hasName_trim, NameMap.get?_trim, foreign, unbound]
  rw [if_neg Bool.false_ne_true, if_neg]
  rintro ⟨defers, numeric⟩
  simp [refused defers] at numeric

theorem register_of_prepare {registry : Registry} {d : Definition} {e : Error}
    (fails : registry.prepare d = .error e) : registry.register d = .error e := by
  rw [register, fails]
  rfl

theorem WellNamed.prepare_of_checkRegistrable {registry : Registry} {d : Definition}
    (wellNamed : registry.WellNamed d) {e : Error}
    (fails : registry.store.checkRegistrable d = .error e) : registry.prepare d = .error e := by
  have named := forM_eq_ok_iff.2 fun name member =>
    checkName_eq_ok_iff.2 (wellNamed.named name member)
  unfold prepare
  rw [if_neg (not_not_intro wellNamed.fits), named, fails]
  rfl

/-- A definition of the other kind is refused before anything else is looked at. -/
theorem register_of_misfit {registry : Registry} {d : Definition} (other : d.kind ≠ registry.kind) :
    registry.register d = .error (.wrongKind d.oid.text registry.kind d.kind) := by
  refine register_of_prepare ?_
  unfold prepare
  rw [if_pos other]
  rfl

theorem register_of_misnamed {registry : Registry} {d : Definition} {name : String}
    (fits : d.kind = registry.kind)
    (first : d.names.find? (fun name => !isDescr name.toList) = some name) :
    registry.register d = .error (.invalidName name) := by
  have bad := List.find?_some first
  rw [Bool.not_eq_true'] at bad
  have fails : d.names.forM checkName = .error (.invalidName name) := by
    refine forM_eq_error_of_find? (fun other _ fine => ?_) ?_ first
    · rw [Bool.not_eq_false'] at fine
      exact checkName_eq_ok_iff.2 fine
    · rw [checkName, bad, if_neg Bool.false_ne_true]
  refine register_of_prepare ?_
  unfold prepare
  rw [if_neg (not_not_intro fits), fails]
  rfl

theorem WellNamed.register_of_stored {registry : Registry} {d : Definition}
    (wellNamed : registry.WellNamed d) (known : registry.store.contains d.oid.text = true) :
    registry.register d = .error (.duplicateOid d.oid.text) := by
  refine register_of_prepare (wellNamed.prepare_of_checkRegistrable ?_)
  rw [Store.checkRegistrable, if_pos known]

/-- The identifier of a definition that is not registered stands for nothing. -/
theorem Reached.unbound_of_absent {registry : Registry} (reached : registry.Reached) {oid : Oid}
    (absent : registry.store.contains oid.text = false) :
    registry.store.names.get? oid.text = none := by
  refine Option.eq_none_iff_forall_ne_some.2 fun other bound => ?_
  obtain ⟨_, stored⟩ := (reached.get?_of_isNumericOid oid.numeric).1 bound
  simp [absent] at stored

/-- Whatever stands in the way of a new name is another definition. -/
theorem Reached.checkBindable_of_bound {registry : Registry} (reached : registry.Reached)
    {d : Definition} (absent : registry.store.contains d.oid.text = false) {name : String}
    {owner : Oid} (bound : registry.store.names.get? name = some owner) :
    registry.store.names.checkBindable name d.oid = .error (.duplicateName name owner.text) := by
  have other : owner ≠ d.oid := by
    rintro rfl
    obtain ⟨held, stored, _⟩ := reached.sound.coherent.named.1 bound
    rw [Store.contains_eq_false_iff, stored] at absent
    simp at absent
  rw [NameMap.checkBindable, bound]
  exact if_neg other

/-- A name that stands for something else is reported, the first such one. -/
theorem Reached.register_of_taken {registry : Registry} (reached : registry.Reached)
    {d : Definition} (wellNamed : registry.WellNamed d)
    (absent : registry.store.contains d.oid.text = false) {name : String} {owner : Oid}
    (first : d.names.find? registry.contains = some name)
    (bound : registry.store.names.get? name = some owner) :
    registry.register d = .error (.duplicateName name owner.text) := by
  have bindable : ∀ other, registry.contains other = false →
      registry.store.names.checkBindable other d.oid = .ok () := by
    intro other free
    rw [NameMap.checkBindable, contains_eq_false_iff.1 free]
  have own := contains_eq_false_iff.2 (reached.unbound_of_absent absent)
  have found : d.spellings.find? registry.contains = some name := by
    rw [Definition.spellings, List.find?_cons_of_neg (by simp [own]), first]
  refine register_of_prepare (wellNamed.prepare_of_checkRegistrable ?_)
  rw [Store.checkRegistrable, absent, if_neg Bool.false_ne_true]
  exact forM_eq_error_of_find? (fun other _ => bindable other)
    (reached.checkBindable_of_bound absent bound) found

section Fresh

variable {registry : Registry} (reached : registry.Reached) {d : Definition}
  (fresh : registry.Fresh d)

include reached fresh

theorem Reached.unbound_of_fresh : ∀ key ∈ d.keys, registry.store.names.bindings[key]? = none := by
  rw [Definition.keys, List.forall_mem_map, Definition.spellings, List.forall_mem_cons]
  exact ⟨reached.unbound_of_absent fresh.absent,
    fun name member => contains_eq_false_iff.1 (fresh.free name member)⟩

/-- A fresh definition comes as far as its superiors. -/
theorem Reached.prepare_of_fresh :
    registry.prepare d = registry.resolveSuperiors d >>= fun superiors =>
      registry.checkAcyclic d.oid.text superiors >>= fun _ => .ok { d with superiors } := by
  obtain ⟨registrable, _⟩ := Store.register_of_unbound
    (Store.contains_eq_false_iff.1 fresh.absent) (reached.unbound_of_fresh fresh)
  have named : ∀ name ∈ d.names, checkName name = .ok () :=
    fun name member => checkName_eq_ok_iff.2 (fresh.named name member)
  exact prepare_of_registrable fresh.fits named registrable

/-- The first reference that stands for nothing is reported. -/
theorem Reached.register_of_unknown {reference : String}
    (first : d.superiors.find? (fun reference => !registry.knows d reference) = some reference) :
    registry.register d = .error (.nameNotFound (Text.trim reference)) := by
  have unknown := List.find?_some first
  rw [Bool.not_eq_true'] at unknown
  have fails : d.superiors.mapM (registry.resolveSuperior d) =
      .error (.nameNotFound (Text.trim reference)) := by
    refine mapM_eq_error_of_find? (fun other _ known => ?_) (resolveSuperior_of_unknown unknown) first
    rw [Bool.not_eq_false', knows_iff] at known
    obtain ⟨superior, resolves⟩ := known
    exact ⟨superior, resolveSuperior_eq_ok_iff.2 resolves⟩
  refine register_of_prepare ?_
  rw [reached.prepare_of_fresh fresh, resolveSuperiors, fails]
  rfl

end Fresh

theorem checkAcyclic_eq_error_iff {registry : Registry} {oid : String} {superiors : List String}
    {e : Error} :
    registry.checkAcyclic oid superiors = .error e ↔ ∃ path,
      walkTo? registry.store.definitions Definition.superiors oid superiors = some path ∧
        e = .cyclicHierarchy oid path := by
  unfold checkAcyclic
  cases walkTo? registry.store.definitions Definition.superiors oid superiors with
  | none => simp
  | some path => simp [eq_comm]

/-- The check for loops fails exactly if the definition is above one of its superiors, or one of
them. -/
theorem exists_checkAcyclic_eq_error_iff {registry : Registry} {oid : String}
    {superiors : List String} :
    (∃ e, registry.checkAcyclic oid superiors = .error e) ↔
      ∃ superior ∈ superiors, ReflTransGen registry.store.Names superior oid := by
  have passes := @checkAcyclic_eq_ok_iff registry oid superiors
  cases answer : registry.checkAcyclic oid superiors with
  | error e =>
    rw [answer] at passes
    simpa using passes
  | ok _ =>
    have apart := passes.1 answer
    simpa using apart

section Vetted

variable {registry : Registry} {d : Definition} {superiors : List String}

theorem Vetted.resolveSuperiors (vetted : registry.Vetted d superiors) :
    registry.resolveSuperiors d = .ok superiors := by
  obtain ⟨found, resolves, rfl⟩ := vetted.resolves
  exact resolveSuperiors_eq_ok_iff.2
    ⟨found, resolves.imp fun _ _ => resolveSuperior_eq_ok_iff.2, rfl⟩

/-- A definition without unknown references is vetted. -/
theorem Fresh.vetted (fresh : registry.Fresh d)
    (known : ∀ reference ∈ d.superiors, registry.knows d reference = true) :
    ∃ superiors, registry.Vetted d superiors := by
  obtain ⟨found, resolves⟩ := exists_forall₂ fun reference member =>
    knows_iff.1 (known reference member)
  exact ⟨_, fresh, found, resolves, rfl⟩

variable (reached : registry.Reached) (vetted : registry.Vetted d superiors)

include reached vetted

theorem Reached.prepare_of_vetted :
    registry.prepare d =
      registry.checkAcyclic d.oid.text superiors >>= fun _ => .ok { d with superiors } := by
  rw [reached.prepare_of_fresh vetted.toFresh, vetted.resolveSuperiors]
  rfl

theorem Reached.exists_register_of_apart
    (apart : ∀ superior ∈ superiors, ¬ ReflTransGen registry.store.Names superior d.oid.text) :
    ∃ after, registry.register d = .ok ({ d with superiors }, after) :=
  Accepts.register ⟨vetted.fits, fun name member => checkName_eq_ok_iff.2 (vetted.named name member),
    Store.contains_eq_false_iff.1 vetted.absent, reached.unbound_of_fresh vetted.toFresh,
    vetted.resolveSuperiors, apart⟩

/-- A vetted definition is refused for a loop only. -/
theorem Reached.register_eq_error_iff {e : Error} :
    registry.register d = .error e ↔ registry.checkAcyclic d.oid.text superiors = .error e := by
  have prepared := reached.prepare_of_vetted vetted
  cases acyclic : registry.checkAcyclic d.oid.text superiors with
  | error other =>
    rw [acyclic] at prepared
    rw [register_of_prepare prepared]
    simp
  | ok _ =>
    obtain ⟨after, run⟩ :=
      reached.exists_register_of_apart vetted (checkAcyclic_eq_ok_iff.1 acyclic)
    rw [run]
    simp

/-- A definition that is above one of its superiors is refused. -/
theorem Reached.register_of_cyclic
    (back : ∃ superior ∈ superiors, ReflTransGen registry.store.Names superior d.oid.text) :
    ∃ path, registry.register d = .error (.cyclicHierarchy d.oid.text path) := by
  obtain ⟨e, fails⟩ := exists_checkAcyclic_eq_error_iff.2 back
  obtain ⟨path, _, rfl⟩ := checkAcyclic_eq_error_iff.1 fails
  exact ⟨path, (reached.register_eq_error_iff vetted).2 fails⟩

end Vetted

/-- What has been registered is in the store and has its keys. -/
theorem Reached.adds_of_register {registry after : Registry} (reached : registry.Reached)
    {d stored : Definition} (run : registry.register d = .ok (stored, after)) :
    registry.Adds stored after := by
  have last := reached.register run
  obtain ⟨kind, policy, definitions⟩ := get?_register run
  obtain ⟨_, store, stores, rfl⟩ := register_eq_ok_iff.1 run
  obtain ⟨_, _, _, names⟩ := Store.register_cases stores
  exact ⟨kind, policy, definitions, names,
    last.sound.current.unique (Index.rebuild_current last.sound.coherent)⟩

/-- What is added leaves no choice of the registry after it. -/
theorem Adds.unique {registry first second : Registry} {stored : Definition}
    (one : registry.Adds stored first) (two : registry.Adds stored second) : first = second := by
  have definitions : first.store.definitions = second.store.definitions :=
    Std.ExtTreeMap.ext_getElem? fun {oid} =>
      (one.definitions oid).trans (two.definitions oid).symm
  have names : first.store.names = second.store.names :=
    NameMap.ext_bindings fun key => (one.names key).trans (two.names key).symm
  have store : first.store = second.store := by
    cases one : first.store
    cases two : second.store
    simp_all
  have kind := one.kind.trans two.kind.symm
  have policy := one.policy.trans two.policy.symm
  have index := one.index
  rw [store, ← two.index] at index
  cases first
  cases second
  cases kind
  cases policy
  cases store
  cases index
  rfl

/-- There is a verdict on every definition, and it is what registering comes to. -/
theorem Reached.exists_verdict {registry : Registry} (reached : registry.Reached) (d : Definition) :
    registry.Verdict d (registry.register d) := by
  by_cases fits : d.kind = registry.kind
  case neg =>
    rw [register_of_misfit fits]
    exact .misfit fits
  cases misnamed : d.names.find? fun name => !isDescr name.toList with
  | some name =>
    rw [register_of_misnamed fits misnamed]
    exact .misnamed fits misnamed
  | none =>
    have wellNamed : registry.WellNamed d := ⟨fits, by simpa using misnamed⟩
    cases absent : registry.store.contains d.oid.text with
    | true =>
      rw [wellNamed.register_of_stored absent]
      exact .stored wellNamed absent
    | false =>
      cases taken : d.names.find? registry.contains with
      | some name =>
        obtain ⟨owner, bound⟩ := contains_eq_true_iff.1 (List.find?_some taken)
        rw [reached.register_of_taken wellNamed absent taken bound]
        exact .taken wellNamed absent taken (resolve_eq_ok_iff.2 bound)
      | none =>
        have fresh : registry.Fresh d := ⟨wellNamed, absent, by simpa using taken⟩
        cases unknown : d.superiors.find? fun reference => !registry.knows d reference with
        | some reference =>
          rw [reached.register_of_unknown fresh unknown]
          exact .unknown fresh unknown
        | none =>
          obtain ⟨superiors, vetted⟩ := fresh.vetted (by simpa using unknown)
          by_cases back : ∃ superior ∈ superiors,
              ReflTransGen registry.store.Names superior d.oid.text
          · obtain ⟨path, fails⟩ := reached.register_of_cyclic vetted back
            rw [fails]
            exact .cyclic vetted back
          · have apart : ∀ superior ∈ superiors,
                ¬ ReflTransGen registry.store.Names superior d.oid.text := by simpa using back
            obtain ⟨after, run⟩ := reached.exists_register_of_apart vetted apart
            rw [run]
            exact .accepted vetted apart (reached.adds_of_register run)

/-- Registering comes to the verdict on a definition, whatever calls have led to the registry. A verdict
leaves open which loop is reported where there is one, and nothing else. What is stored names
identifiers as its superiors, each once and never its own, and stands under an identifier and under keys
that stood for nothing before. -/
theorem Reached.register_verdict {registry : Registry} (reached : registry.Reached)
    (d : Definition) :
    registry.Verdict d (registry.register d) ∧
    (∀ answer, registry.Verdict d answer → answer = registry.register d ∨
      ∃ path other, answer = .error (.cyclicHierarchy d.oid.text path) ∧
        registry.register d = .error (.cyclicHierarchy d.oid.text other)) ∧
    ∀ stored after, registry.register d = .ok (stored, after) →
      (∀ superior ∈ stored.superiors, isNumericOid superior.toList = true) ∧
      stored.superiors.Nodup ∧ d.oid.text ∉ stored.superiors ∧
      registry.store.get? d.oid.text = none ∧
      ∀ key ∈ d.keys, registry.store.names.bindings[key]? = none := by
  refine ⟨reached.exists_verdict d, fun answer verdict => ?_, fun stored after run => ?_⟩
  · cases verdict with
    | misfit other => exact Or.inl (register_of_misfit other).symm
    | misnamed fits first => exact Or.inl (register_of_misnamed fits first).symm
    | stored wellNamed known => exact Or.inl (wellNamed.register_of_stored known).symm
    | taken wellNamed absent first bound =>
      have bound := resolve_eq_ok_iff.1 bound
      exact Or.inl (reached.register_of_taken wellNamed absent first bound).symm
    | unknown fresh first => exact Or.inl (reached.register_of_unknown fresh first).symm
    | @cyclic _ path vetted back =>
      obtain ⟨other, fails⟩ := reached.register_of_cyclic vetted back
      exact Or.inr ⟨path, other, rfl, fails⟩
    | accepted vetted apart adds =>
      obtain ⟨after, run⟩ := reached.exists_register_of_apart vetted apart
      rw [run, adds.unique (reached.adds_of_register run)]
      exact Or.inl rfl
  · obtain ⟨superiors, accepts, rfl⟩ := reached.accepts_of_register run
    obtain ⟨found, _, rfl⟩ := resolveSuperiors_eq_ok_iff.1 accepts.resolved
    exact ⟨resolveSuperiors_numeric accepts.resolved, nodup_eraseDups found,
      fun own => accepts.apart _ own .refl, accepts.absent, accepts.unbound⟩

end Registry

namespace Sample

def resident : Definition :=
  { oid := ⟨"2.5.6.10", by decide⟩, kind := .objectClass, names := ["residentialPerson"],
    superiors := ["PERSON", " 2.5.6.6", " mystery\t", "nobody"] }

def topBelowPerson : Definition := { top with superiors := [" Person"] }

theorem fresh_resident : full.Fresh resident :=
  ⟨⟨rfl, by decide⟩, by decide +kernel, by decide +kernel⟩

theorem vetted_topBelowPerson : waiting.Vetted topBelowPerson ["2.5.6.6"] where
  fits := rfl
  named := by decide
  absent := by decide +kernel
  free := by decide +kernel
  resolves := ⟨[person.oid.text], .cons (.bound (by decide +kernel) (by decide +kernel)) .nil, rfl⟩

theorem names_person_top : waiting.store.Names "2.5.6.6" "2.5.6.0" :=
  ⟨person, by decide +kernel, by decide⟩

end Sample

/-- A definition whose third reference stands for nothing, and one that names a definition below it.
-/
theorem Registry.Reached.register_verdict_resident :
    Sample.full.register Sample.resident = .error (.nameNotFound "mystery") ∧
      ∃ path, Sample.waiting.register Sample.topBelowPerson =
        .error (.cyclicHierarchy "2.5.6.0" path) := by
  constructor
  · obtain ⟨_, only, _⟩ := register_verdict Sample.full_reached Sample.resident
    have first : Sample.resident.superiors.find?
        (fun reference => !Sample.full.knows Sample.resident reference) = some " mystery\t" := by
      decide +kernel
    rcases only _ (.unknown Sample.fresh_resident first) with answer | ⟨path, other, loops, _⟩
    · rw [← answer]
      decide +kernel
    · simp at loops
  · obtain ⟨_, only, _⟩ := register_verdict Sample.waiting_reached Sample.topBelowPerson
    have back : ∃ superior ∈ ["2.5.6.6"], ReflTransGen Sample.waiting.store.Names superior "2.5.6.0" :=
      ⟨_, List.mem_cons_self, .single Sample.names_person_top⟩
    have verdict : Sample.waiting.Verdict Sample.topBelowPerson
        (.error (.cyclicHierarchy "2.5.6.0" [])) := .cyclic Sample.vetted_topBelowPerson back
    rcases only _ verdict with answer | ⟨_, other, _, fails⟩
    · exact ⟨[], answer.symm⟩
    · exact ⟨other, fails⟩

/-- The check for loops fails exactly where the superiors are, or lead over superiors of registered
definitions to, the identifier that is to be registered. The loop that it reports is then a walk from one
of the superiors to that identifier which comes to no identifier twice, and of a definition that has
passed all other checks registering reports just that. -/
theorem Registry.checkAcyclic_exact (registry : Registry) (oid : String) (superiors : List String) :
    ((∃ e, registry.checkAcyclic oid superiors = .error e) ↔
      oid ∈ superiors ∨ ∃ superior ∈ superiors, TransGen registry.store.Names superior oid) ∧
    (∀ e, registry.checkAcyclic oid superiors = .error e →
      ∃ path, e = .cyclicHierarchy oid path ∧ Walk registry.store.Names superiors oid path) ∧
    (registry.Reached → ∀ d, d.oid.text = oid → registry.Vetted d superiors →
      ∀ e, registry.register d = .error e ↔ registry.checkAcyclic oid superiors = .error e) := by
  refine ⟨?_, fun e fails => ?_, fun reached d same vetted e => ?_⟩
  · rw [exists_checkAcyclic_eq_error_iff]
    simp only [reflTransGen_iff_eq_or_transGen, and_or_left, exists_or]
    refine or_congr_left ⟨?_, fun own => ⟨oid, own, rfl⟩⟩
    rintro ⟨superior, member, rfl⟩
    exact member
  · obtain ⟨path, finds, same⟩ := checkAcyclic_eq_error_iff.1 fails
    exact ⟨path, same, walkTo?_walk finds⟩
  · subst same
    exact reached.register_eq_error_iff vetted

theorem Registry.checkAcyclic_exact_topBelowPerson :
    ∃ path, Sample.waiting.register Sample.topBelowPerson =
        .error (.cyclicHierarchy "2.5.6.0" path) ∧
      Walk Sample.waiting.store.Names ["2.5.6.6"] "2.5.6.0" path := by
  obtain ⟨fails, shows, agrees⟩ := checkAcyclic_exact Sample.waiting "2.5.6.0" ["2.5.6.6"]
  obtain ⟨e, refused⟩ := fails.2 (Or.inr ⟨_, List.mem_cons_self, .single Sample.names_person_top⟩)
  obtain ⟨path, rfl, walk⟩ := shows e refused
  have same := agrees Sample.waiting_reached Sample.topBelowPerson rfl Sample.vetted_topBelowPerson
  exact ⟨path, (same _).2 refused, walk⟩

end Subschema
