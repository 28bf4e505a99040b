import Subschema.Proofs.Naming
import Subschema.Proofs.Sound

namespace Subschema

/-- A change carried out in place. If it fails, the state is what it has made of it until then. -/
abbrev InPlace (σ α : Type) := EStateM Error σ α

namespace InPlace

variable {ε σ τ α : Type}

/-- Reads the state, and may fail for what it finds there. Nothing is written. -/
def reading (question : σ → Except Error α) : InPlace σ α := fun state =>
  match question state with
  | .ok a => .ok a state
  | .error e => .error e state

/-- Carries out a change on one part of the state. The part is written back also if that fails. -/
def within (part : σ → τ) (put : σ → τ → σ) (change : EStateM ε τ α) : EStateM ε σ α := fun state =>
  match change.run (part state) with
  | .ok a after => .ok a (put state after)
  | .error e after => .error e (put state after)

theorem run_reading (question : σ → Except Error α) (state : σ) :
    (reading question).run state =
      match question state with
      | .ok a => .ok a state
      | .error e => .error e state := rfl

theorem run_within (part : σ → τ) (put : σ → τ → σ) (change : EStateM ε τ α) (state : σ) :
    (within part put change).run state =
      match change.run (part state) with
      | .ok a after => .ok a (put state after)
      | .error e after => .error e (put state after) := rfl

end InPlace

open InPlace

/-- Lets a name stand for an identifier, in place. -/
def NameMap.bindInPlace (oid : Oid) (name : String) : InPlace NameMap Unit := do
  reading fun names => names.checkBindable name oid
  modify fun names => ⟨names.bindings.insert (nameKey name) oid⟩

/-- Stores a definition in place: it is checked, its spellings are bound one after the other, and then
it is filed. -/
def Store.registerInPlace (d : Definition) : InPlace Store Definition := do
  reading fun store => store.checkRegistrable d
  d.spellings.forM fun name =>
    within names (fun store names => { store with names }) (NameMap.bindInPlace d.oid name)
  modify fun store => { store with definitions := store.definitions.insert d.oid.text d }
  return d

/-- Registers a definition in place: it is prepared, stored, and entered into the index. -/
def Registry.registerInPlace (d : Definition) : InPlace Registry Definition := do
  let prepared ← reading fun registry => registry.prepare d
  let stored ← within store (fun registry store => { registry with store })
    (Store.registerInPlace prepared)
  modify fun registry => { registry with index := registry.index.enter registry.store stored }
  return stored

/-- Removes a definition from a store in place: once it has been found it is taken out, and then its
spellings are freed. -/
def Store.unregisterInPlace (name : String) : InPlace Store Definition := do
  let oid ← reading fun store => (store.names.get? name).elim (.error (.notFound name)) .ok
  let removed ← reading fun store => (store.get? oid.text).elim (.error (.notFound name)) .ok
  modify fun store => { store with definitions := store.definitions.erase oid.text }
  removed.spellings.forM fun spelling =>
    modify fun store => { store with names := store.names.unbind spelling }
  return removed

/-- Removes a definition from a registry in place: first from its store, then from the index. -/
def Registry.unregisterInPlace (name : String) : InPlace Registry Definition := do
  let removed ← within store (fun registry store => { registry with store })
    (Store.unregisterInPlace name)
  modify fun registry => { registry with index := registry.index.withdraw registry.store removed }
  return removed

/-- A binding that does not fail is the same in place. -/
theorem NameMap.run_bindInPlace {names bound : NameMap} {oid : Oid} {name : String}
    (binds : names.bind name oid = .ok bound) : (bindInPlace oid name).run names = .ok () bound := by
  unfold bind at binds
  split at binds
  · rename_i free
    cases Except.ok.inj binds
    rw [bindInPlace, EStateM.run_bind, run_reading, free]
    rfl
  · simp at binds

namespace Store

/-- As long as no binding fails, binding in place leaves the bindings that it is to leave. -/
theorem run_forM_bindInPlace {oid : Oid} {spellings : List String} {store : Store} {bound : NameMap}
    (binds : spellings.foldlM (fun names name => names.bind name oid) store.names = .ok bound) :
    (spellings.forM fun name => within names (fun store names => { store with names })
      (NameMap.bindInPlace oid name)).run store = .ok () { store with names := bound } := by
  induction spellings generalizing store with
  | nil =>
    cases Except.ok.inj binds
    rfl
  | cons name spellings ih =>
    rw [List.foldlM_cons, bind_eq_ok_iff] at binds
    obtain ⟨next, own, later⟩ := binds
    rw [List.forM_eq_forM] at ih ⊢
    rw [List.forM_cons, EStateM.run_bind, run_within, NameMap.run_bindInPlace own]
    exact ih later

/-- A definition that passes the check is bound in full: the bindings of its first spellings leave
each later one free for it. -/
theorem exists_bind_of_registrable {store : Store} {d : Definition}
    (registrable : store.checkRegistrable d = .ok ()) {before rest : List String} {name : String}
    (split : d.spellings = before ++ name :: rest) :
    ∃ names bound, before.foldlM (fun names name => names.bind name d.oid) store.names = .ok names ∧
      names.bind name d.oid = .ok bound := by
  obtain ⟨_, free⟩ := checkRegistrable_eq_ok_iff.1 registrable
  rw [split] at free
  obtain ⟨bound, binds, _⟩ := NameMap.foldlM_bind free
  rw [List.foldlM_append, bind_eq_ok_iff] at binds
  obtain ⟨names, first, later⟩ := binds
  rw [List.foldlM_cons, bind_eq_ok_iff] at later
  obtain ⟨next, own, _⟩ := later
  exact ⟨names, next, first, own⟩

/-- Storing in place stores a definition as a whole, or changes nothing. -/
theorem run_registerInPlace (store : Store) (d : Definition) :
    (registerInPlace d).run store =
      match store.register d with
      | .ok after => .ok d after
      | .error e => .error e store := by
  rw [registerInPlace, EStateM.run_bind, run_reading]
  cases registrable : store.checkRegistrable d with
  | error e => simp only [register, registrable]
  | ok _ =>
    obtain ⟨bound, binds, _⟩ :=
      NameMap.foldlM_bind (checkRegistrable_eq_ok_iff.1 registrable).2
    simp only [register, registrable, binds]
    rw [EStateM.run_bind, run_forM_bindInPlace binds]
    rfl

theorem run_forM_unbind (spellings : List String) (store : Store) :
    (spellings.forM fun spelling => (modify fun store =>
      { store with names := store.names.unbind spelling } : InPlace Store Unit)).run store =
        .ok () { store with names := spellings.foldl NameMap.unbind store.names } := by
  induction spellings generalizing store with
  | nil => rfl
  | cons spelling spellings ih =>
    rw [List.forM_eq_forM] at ih ⊢
    rw [List.forM_cons]
    exact ih _

/-- Nothing fails once a definition has been taken out. -/
theorem run_unregisterInPlace (store : Store) (name : String) :
    (unregisterInPlace name).run store =
      match store.unregister name with
      | .ok (removed, after) => .ok removed after
      | .error e => .error e store := by
  rw [unregisterInPlace, EStateM.run_bind, run_reading]
  cases bound : store.names.get? name with
  | none => simp only [unregister, bound, Option.elim_none]
  | some oid =>
    simp only [unregister, bound, Option.elim_some]
    rw [EStateM.run_bind, run_reading]
    cases stored : store.get? oid.text with
    | none => rfl
    | some d =>
      simp only [Option.elim_some]
      rw [EStateM.run_bind, EStateM.run_modify]
      dsimp only
      rw [EStateM.run_bind, run_forM_unbind]
      rfl

end Store

namespace Registry

/-- What has been prepared is stored: it has the spellings that were checked. -/
theorem exists_register_of_prepare {registry : Registry} {d prepared : Definition}
    (passes : registry.prepare d = .ok prepared) :
    ∃ store, registry.store.register prepared = .ok store := by
  obtain ⟨_, _, registrable, superiors, _, _, rfl⟩ := prepare_eq_ok_iff.1 passes
  exact Store.exists_register_iff.2 registrable

/-- Registering in place registers a definition as a whole, or changes nothing. -/
theorem run_registerInPlace (registry : Registry) (d : Definition) :
    (registerInPlace d).run registry =
      match registry.register d with
      | .ok (stored, after) => .ok stored after
      | .error e => .error e registry := by
  rw [registerInPlace, EStateM.run_bind, run_reading]
  cases passes : registry.prepare d with
  | error e => simp [register, passes, bind, Except.bind]
  | ok prepared =>
    obtain ⟨store, stores⟩ := exists_register_of_prepare passes
    have registers := register_eq_ok_iff.2 ⟨passes, store, stores, rfl⟩
    simp only [registers]
    rw [EStateM.run_bind, run_within, Store.run_registerInPlace, stores]
    rfl

/-- Removing in place removes a definition as a whole, or changes nothing. -/
theorem run_unregisterInPlace (registry : Registry) (name : String) :
    (unregisterInPlace name).run registry =
      match registry.unregister name with
      | .ok (removed, after) => .ok removed after
      | .error e => .error e registry := by
  rw [unregisterInPlace, EStateM.run_bind, run_within, Store.run_unregisterInPlace, unregister]
  cases registry.store.unregister name <;> rfl

end Registry

/-- Registering is atomic, in every store and every registry, whatever is registered. A store takes a
definition exactly if the check before the first binding passes; then no binding fails, one after the
other; and a run in place that fails has left bindings and definitions as they were. What a registry
has prepared its store takes, so that a registration that fails for any reason leaves definitions,
names and index as they were. -/
theorem registration_atomic :
    (∀ (store : Store) (d : Definition),
      ((∃ after, store.register d = .ok after) ↔ store.checkRegistrable d = .ok ()) ∧
      (store.checkRegistrable d = .ok () →
        ∀ before name rest, d.spellings = before ++ name :: rest → ∃ names bound,
          before.foldlM (fun names name => names.bind name d.oid) store.names = .ok names ∧
          names.bind name d.oid = .ok bound) ∧
      (∀ stored after, (Store.registerInPlace d).run store = .ok stored after ↔
        stored = d ∧ store.register d = .ok after) ∧
      ∀ e after, (Store.registerInPlace d).run store = .error e after ↔
        store.register d = .error e ∧ after = store) ∧
    ∀ (registry : Registry) (d : Definition),
      (∀ prepared, registry.prepare d = .ok prepared →
        ∃ store, registry.store.register prepared = .ok store) ∧
      (∀ stored after, (Registry.registerInPlace d).run registry = .ok stored after ↔
        registry.register d = .ok (stored, after)) ∧
      ∀ e after, (Registry.registerInPlace d).run registry = .error e after ↔
        registry.register d = .error e ∧ after = registry := by
  refine ⟨fun store d => ⟨Store.exists_register_iff, fun registrable before name rest split =>
    Store.exists_bind_of_registrable registrable split, fun stored after => ?_, fun e after => ?_⟩,
    fun registry d => ⟨fun prepared => Registry.exists_register_of_prepare, fun stored after => ?_,
      fun e after => ?_⟩⟩
  · rw [Store.run_registerInPlace]
    cases store.register d <;> simp [eq_comm]
  · rw [Store.run_registerInPlace]
    cases store.register d <;> simp [eq_comm]
  · rw [Registry.run_registerInPlace]
    cases registry.register d <;> simp [Prod.ext_iff]
  · rw [Registry.run_registerInPlace]
    cases registry.register d <;> simp [eq_comm]

/-- The second of its names keeps a definition out after the first could have been bound. -/
theorem registration_atomic_intruder :
    let store := ({} : Store).offer Sample.careless
    (Store.registerInPlace Sample.intruder).run store =
      .error (.duplicateName "\t2.5.4.3" "2.5.4.3") store ∧
    (∃ names bound, ["2.5.4.4"].foldlM (fun names name => names.bind name Sample.surname.oid)
      store.names = .ok names ∧ names.bind "sn" Sample.surname.oid = .ok bound) ∧
    (∃ after, Sample.waiting.store.register Sample.top = .ok after) ∧
    (Registry.registerInPlace Sample.top).run Sample.waiting = .ok Sample.top Sample.full ∧
    (Registry.registerInPlace Sample.person).run Sample.full =
      .error (.duplicateOid "2.5.6.6") Sample.full := by
  obtain ⟨stores, registries⟩ := registration_atomic
  obtain ⟨prepares, succeeds, _⟩ := registries Sample.waiting Sample.top
  refine ⟨((stores _ _).2.2.2 _ _).2 ⟨by decide +kernel, rfl⟩,
    (stores _ Sample.surname).2.1 (by decide +kernel) ["2.5.4.4"] "sn" [] rfl,
    prepares _ (Registry.register_eq_ok_iff.1 Sample.register_top).1,
    (succeeds _ _).2 Sample.register_top, ?_⟩
  exact ((registries _ _).2.2 _ _).2 ⟨by decide +kernel, rfl⟩

end Subschema
