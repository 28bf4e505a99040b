import Subschema.Proofs.Atomic
import Subschema.Proofs.Loading

namespace Subschema

/-- A state, and beside it a copy to try a change on. -/
structure Staged (σ : Type) where
  live : σ
  copy : σ

namespace InPlace

variable {ε σ τ α β : Type}

/-- Carries out a change with a copy at hand. The copy is gone afterwards; the state stays as the change
has left it, also if the change fails. -/
def withCopy (make : σ → σ) (change : EStateM ε (Staged σ) α) : EStateM ε σ α := fun state =>
  match change.run ⟨state, make state⟩ with
  | .ok a last => .ok a last.live
  | .error e last => .error e last.live

/-- Carries out a change on a copy, and then puts the copy in the place of the state. -/
def onCopy (make : σ → σ) (change : EStateM ε σ α) : EStateM ε σ α :=
  withCopy make do
    let a ← within Staged.copy (fun staged copy => { staged with copy }) change
    modify fun staged => { staged with live := staged.copy }
    return a

/-- How a change in place has gone, without the state that it leaves if it fails. -/
def outcome : EStateM.Result ε σ α → Except ε (α × σ)
  | .ok a after => .ok (a, after)
  | .error e _ => .error e

theorem run_withCopy (make : σ → σ) (change : EStateM ε (Staged σ) α) (state : σ) :
    (withCopy make change).run state =
      match change.run ⟨state, make state⟩ with
      | .ok a last => .ok a last.live
      | .error e last => .error e last.live := rfl

/-- A change on a copy that fails has spoilt the copy and nothing else. -/
theorem run_onCopy (make : σ → σ) (change : EStateM ε σ α) (state : σ) :
    (onCopy make change).run state =
      match change.run (make state) with
      | .ok a after => .ok a after
      | .error e _ => .error e state := by
  rw [onCopy, run_withCopy, EStateM.run_bind, run_within]
  cases change.run (make state) <;> rfl

/-- What comes of two changes in a row comes of the one and then of the other. -/
theorem outcome_bind (first : EStateM ε σ α) (second : α → EStateM ε σ β) (state : σ) :
    outcome ((first >>= second).run state) =
      outcome (first.run state) >>= fun (a, after) => outcome ((second a).run after) := by
  rw [EStateM.run_bind]
  cases first.run state <;> rfl

theorem outcome_reading (question : σ → Except Error α) (state : σ) :
    outcome ((reading question).run state) = (question state).map fun a => (a, state) := by
  rw [run_reading]
  cases question state <;> rfl

/-- A change of a part leaves the rest as it is. -/
theorem outcome_within (part : σ → τ) (put : σ → τ → σ) (change : EStateM ε τ α) (state : σ) :
    outcome ((within part put change).run state) =
      (outcome (change.run (part state))).map fun (a, after) => (a, put state after) := by
  rw [run_within]
  cases change.run (part state) <;> rfl

end InPlace

open InPlace

namespace Bundle

/-- Registers definitions in place, one after the other. One that fails leaves those before it. -/
def registerAllInPlace : List Definition → InPlace Registry Unit
  | [] => return
  | d :: batch => do
    let _ ← Registry.registerInPlace d
    registerAllInPlace batch

/-- Registers definitions of one kind in place, superiors first. -/
def registerBatchInPlace (listing : Listing) (batch : List Definition) : InPlace Registry Unit := do
  reading fun registry => checkDistinct registry ∅ batch
  let order ← reading fun registry =>
    (Hierarchy.ofDefinitions (listing.list registry ++ batch)).superiorsFirst
  registerAllInPlace (arrange batch order)

/-- Registers the definitions of a kind in some documents in place, and counts them. -/
def loadKindInPlace (listing : Listing) (documents : List (String × Document)) (kind : Kind) :
    InPlace Schema Nat := do
  let batch ← reading fun _ => definitions documents kind
  within (fun schema => schema.registry kind) (fun schema registry => schema.setRegistry kind registry)
    (registerBatchInPlace listing batch)
  return batch.length

/-- Registers what is in the documents of a bundle in place. -/
def loadDocumentsInPlace (listing : Listing) (bundle : Bundle) (documents : List (String × Document)) :
    InPlace Schema Report := do
  let attributeTypes ← loadKindInPlace listing documents .attributeType
  let objectClasses ← loadKindInPlace listing documents .objectClass
  return bundle.report documents objectClasses attributeTypes

/-- Registers everything in a bundle on a copy of the schema, which then takes its place. -/
def loadInPlace (listing : Listing) (bundle : Bundle) : InPlace Schema Report := do
  let documents ← reading fun _ => bundle.documents
  onCopy Schema.copy (bundle.loadDocumentsInPlace listing documents)

theorem outcome_registerAllInPlace (registry : Registry) (batch : List Definition) :
    outcome ((registerAllInPlace batch).run registry) =
      (registerAll registry batch).map fun after => ((), after) := by
  induction batch generalizing registry with
  | nil => rfl
  | cons d batch ih =>
    rw [registerAllInPlace, outcome_bind, Registry.run_registerInPlace, registerAll, List.foldlM_cons]
    cases registry.register d with
    | error e => rfl
    | ok done => exact ih done.2

theorem outcome_registerBatchInPlace (listing : Listing) (registry : Registry)
    (batch : List Definition) :
    outcome ((registerBatchInPlace listing batch).run registry) =
      (registerBatch listing registry batch).map fun after => ((), after) := by
  rw [registerBatchInPlace, registerBatch, outcome_bind, outcome_reading]
  cases checkDistinct registry ∅ batch with
  | error e => rfl
  | ok _ =>
    change outcome (EStateM.run (reading _ >>= _) registry) = _
    rw [outcome_bind, outcome_reading]
    cases (Hierarchy.ofDefinitions (listing.list registry ++ batch)).superiorsFirst with
    | error e => rfl
    | ok order => exact outcome_registerAllInPlace registry (arrange batch order)

theorem outcome_loadKindInPlace (listing : Listing) (documents : List (String × Document))
    (schema : Schema) (kind : Kind) :
    outcome ((loadKindInPlace listing documents kind).run schema) =
      loadKind listing documents schema kind := by
  rw [loadKindInPlace, loadKind, outcome_bind, outcome_reading]
  cases definitions documents kind with
  | error e => rfl
  | ok batch =>
    change outcome (EStateM.run (within _ _ _ >>= _) schema) = registerBatch listing _ batch >>= _
    rw [outcome_bind, outcome_within, outcome_registerBatchInPlace]
    cases registerBatch listing (schema.registry kind) batch <;> rfl

theorem outcome_loadDocumentsInPlace (listing : Listing) (bundle : Bundle)
    (documents : List (String × Document)) (schema : Schema) :
    outcome ((bundle.loadDocumentsInPlace listing documents).run schema) =
      bundle.loadDocuments listing documents schema := by
  simp only [loadDocumentsInPlace, outcome_bind, outcome_loadKindInPlace]
  rfl

/-- A load in place does what a load does, and one that fails leaves the schema as it was, however much
has been registered in the copy by then. -/
theorem run_loadInPlace (listing : Listing) (bundle : Bundle) (schema : Schema) :
    (bundle.loadInPlace listing).run schema =
      match bundle.loadBy listing schema with
      | .ok (report, after) => .ok report after
      | .error e => .error e schema := by
  rw [loadInPlace, EStateM.run_bind, run_reading, loadBy]
  cases bundle.documents with
  | error e => rfl
  | ok documents =>
    have staged := bundle.outcome_loadDocumentsInPlace listing documents schema.copy
    change EStateM.run (onCopy Schema.copy _) schema =
      match bundle.loadDocuments listing documents schema.copy with
      | .ok (report, after) => .ok report after
      | .error e => .error e schema
    rw [run_onCopy, ← staged]
    cases (bundle.loadDocumentsInPlace listing documents).run schema.copy <;> rfl

end Bundle

end Subschema
