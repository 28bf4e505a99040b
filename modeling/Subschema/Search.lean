import Subschema.Fuzzy
import Subschema.Registry

namespace Subschema

/-- A definition found by a search. -/
structure Hit where
  oid : String
  name : String
  score : Int
  deriving DecidableEq

/-- The best score of the names and the identifier of a definition, if any of them matches. -/
def Definition.bestScore? (score : String → String → Option Int) (query : String)
    (d : Definition) : Option Int :=
  ((d.names ++ [d.oid.text]).filterMap fun candidate => score candidate query).max?

/-- Whether one hit comes before another: by its score, then by its identifier. -/
def Hit.precedes (a b : Hit) : Bool :=
  a.score > b.score || (a.score == b.score && (compare a.oid b.oid).isLE)

/-- What a definition is found as, if it matches. -/
def Definition.hit? (score : String → String → Option Int) (query : String) (d : Definition) :
    Option Hit :=
  (d.bestScore? score query).map fun best => ⟨d.oid.text, d.name, best⟩

/-- The best hits for a query among definitions, under a measure of likeness. -/
def bestHits (score : String → String → Option Int) (query : String) (limit : Nat)
    (definitions : List Definition) : List Hit :=
  ((definitions.filterMap fun d => d.hit? score query).mergeSort Hit.precedes).take limit

/-- The best hits for a query in a registry, under a measure of likeness. -/
def Registry.searchWith (registry : Registry) (score : String → String → Option Int)
    (query : String) (limit : Nat) : List Hit :=
  bestHits score query limit registry.store.toList

/-- The best hits for a query. -/
def Registry.search (registry : Registry) (query : String) (limit : Nat) : List Hit :=
  registry.searchWith Fuzzy.score query limit

end Subschema
