import Mathlib.Data.List.Perm.Basic
import Subschema.Bundle
import Subschema.Proofs.Canonical

namespace Subschema

namespace Bundle

/-- The entries of a kind in some documents, in order. -/
def entries (documents : List (String × Document)) (kind : Kind) : List Entry :=
  documents.flatMap fun (_, document) => document.entries kind

/-- A list of definitions is what a list of entries stands for. -/
abbrev Stands (kind : Kind) : List Entry → List Definition → Prop :=
  List.Forall₂ fun entry d => entry.toDefinition kind = .ok d

/-- Documents decode to the definitions that their entries stand for. -/
theorem definitions_eq_ok_iff {documents : List (String × Document)} {kind : Kind}
    {batch : List Definition} :
    definitions documents kind = .ok batch ↔ Stands kind (entries documents kind) batch := by
  have spread : entries documents kind =
      (documents.flatMap fun (origin, document) =>
        (document.entries kind).map fun entry => (origin, entry)).map Prod.snd := by
    simp [entries, List.map_flatMap, Function.comp_def]
  rw [definitions, mapM_eq_ok_iff, spread, Stands, List.forall₂_map_left_iff]
  constructor
  · refine List.Forall₂.imp ?_
    rintro ⟨origin, entry⟩ d read
    cases run : entry.toDefinition kind with
    | ok e => simpa only [run] using read
    | error e => simp [run] at read
  · refine List.Forall₂.imp ?_
    rintro ⟨origin, entry⟩ d read
    simp only [read]

theorem Stands.unique {kind : Kind} {source : List Entry} {batch other : List Definition}
    (one : Stands kind source batch) (two : Stands kind source other) : batch = other :=
  List.right_unique_forall₂'
    (fun _ _ _ first second => Except.ok.inj (first.symm.trans second)) one two

/-- Entries in another order stand for the same definitions in another order. -/
theorem Stands.perm {kind : Kind} {source others : List Entry} {batch : List Definition}
    (stands : Stands kind source batch) (same : others.Perm source) :
    ∃ order, Stands kind others order ∧ order.Perm batch :=
  List.perm_comp_forall₂ same stands

/-- Entries with identifiers that can be read stand for definitions. -/
theorem exists_stands {kind : Kind} {source : List Entry}
    (parses : ∀ entry ∈ source, ∃ oid, Oid.parse entry.oid = .ok oid) :
    ∃ batch, Stands kind source batch := by
  refine exists_forall₂ fun entry member => ?_
  obtain ⟨oid, run⟩ := parses entry member
  exact ⟨_, by rw [Entry.toDefinition, run]; rfl⟩

/-- The same texts in another order are the same documents in another order. -/
theorem documents_perm {bundle other : Bundle} {documents : List (String × Document)}
    (decoded : bundle.documents = .ok documents) (same : other.sources.Perm bundle.sources) :
    ∃ others, other.documents = .ok others ∧ others.Perm documents := by
  unfold Bundle.documents at decoded ⊢
  obtain ⟨others, reads, perm⟩ := List.perm_comp_forall₂ same (mapM_eq_ok_iff.1 decoded)
  exact ⟨others, mapM_eq_ok_iff.2 reads, perm⟩

theorem entries_perm {documents others : List (String × Document)}
    (same : others.Perm documents) (kind : Kind) :
    (entries others kind).Perm (entries documents kind) :=
  same.flatMap_right _

end Bundle

end Subschema
