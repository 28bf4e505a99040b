import Subschema.Schema

namespace Subschema

/-- The schema that is published now. Changes are made to a copy, so whoever holds an earlier schema
keeps it as it was. -/
structure Publication where
  current : Schema
  deriving DecidableEq

namespace Publication

/-- The schema that is published now, for reading. -/
def snapshot (publication : Publication) : Schema := publication.current

/-- Publishes another schema and gives back the one it takes the place of. -/
def replace (publication : Publication) (schema : Schema) : Schema × Publication :=
  (publication.current, ⟨schema⟩)

/-- Applies a change to a copy of the published schema and publishes the copy. A change that fails
publishes nothing. -/
def update {ε α : Type} (publication : Publication) (change : Schema → Except ε (α × Schema)) :
    Except ε (α × Publication) :=
  (change publication.current.copy).map fun (answer, schema) => (answer, ⟨schema⟩)

/-- A short description: the number of definitions. -/
def render (publication : Publication) : String :=
  "SharedSchema \x7b size: " ++ toString publication.current.size ++ " \x7d"

end Publication

end Subschema
