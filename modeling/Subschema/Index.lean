import Subschema.Links
import Subschema.Store

namespace Subschema

/-- The stored definitions reached from some superiors through stored definitions only. -/
def Store.ancestors (store : Store) (superiors : List String) : TextSet :=
  reached store.definitions Definition.superiors superiors

/-- Descendants of stored definitions, and those waiting for superiors that are not stored. The
index is kept current at each change; `Index.rebuild` says from the store alone what it has to be.
-/
structure Index where
  descendants : Links := .empty
  waiting : Links := .empty
  deriving DecidableEq

namespace Index

/-- Lets a definition wait for each of its superiors that is not stored. -/
def park (index : Index) (store : Store) (d : Definition) : Index :=
  { index with
    waiting := d.superiors.foldl
      (fun waiting superior =>
        if store.contains superior then waiting else waiting.link superior d.oid.text)
      index.waiting }

/-- Adds identifiers to the descendants of all ancestors of a definition. -/
def spread (index : Index) (store : Store) (d : Definition) (below : TextSet) : Index :=
  { index with
    descendants := (store.ancestors d.superiors).foldl
      (fun descendants ancestor => descendants.linkAll ancestor below) index.descendants }

/-- The index of a store, from nothing but the store. -/
def rebuild (store : Store) : Index :=
  store.toList.foldl
    (fun index d => (index.spread store d {d.oid.text}).park store d) {}

/-- Everything below a definition that was waited for: those that waited, and what is below
them. -/
def adopted (index : Index) (oid : String) : TextSet :=
  (index.waiting.row oid).foldl
    (fun below child => below ∪ (index.descendants.row child).insert child) ∅

/-- Gives a definition everything that waited for it, in place of what it had below it. If nothing has
waited, that is left as it is. -/
def adopt (index : Index) (oid : String) : Index :=
  let below := index.adopted oid
  ⟨if below.isEmpty then index.descendants else index.descendants.setRow oid below,
    index.waiting.eraseRow oid⟩

/-- The index after a definition has been stored. Those that waited for it become its descendants,
and with it descendants of its ancestors. -/
def enter (index : Index) (store : Store) (d : Definition) : Index :=
  let below := index.adopted d.oid.text
  ((index.adopt d.oid.text).park store d).spread store d (below.insert d.oid.text)

/-- Links one former descendant of a removed definition again with those of the given ancestors
that it still reaches, and lets it wait for the removed definition if it names it. -/
def restore (index : Index) (store : Store) (removed : String) (ancestors : TextSet)
    (descendant : String) : Index :=
  match store.get? descendant with
  | none => index
  | some d =>
    ⟨(store.ancestors d.superiors).foldl
        (fun descendants ancestor =>
          if ancestors.contains ancestor then descendants.link ancestor descendant
          else descendants)
        index.descendants,
      if d.superiors.contains removed then index.waiting.link removed descendant
      else index.waiting⟩

/-- The index after a definition has been removed from the store. Its ancestors lose it and what
was below it, and then regain what reaches them on another way. -/
def withdraw (index : Index) (store : Store) (d : Definition) : Index :=
  let oid := d.oid.text
  let former := index.descendants.row oid
  let ancestors := store.ancestors d.superiors
  let scrubbed : Index :=
    ⟨ancestors.foldl (fun descendants ancestor => descendants.unlinkAll ancestor (former.insert oid))
        (index.descendants.eraseRow oid),
      d.superiors.foldl (fun waiting superior => waiting.unlink superior oid) index.waiting⟩
  former.foldl (fun index descendant => index.restore store oid ancestors descendant) scrubbed

end Index

end Subschema
