import Subschema.Error

namespace Subschema.CommandLine

/-- What a run of a tool leaves behind. -/
structure Outcome where
  status : Nat := 0
  output : List String := []
  complaints : List String := []
  /-- A file to write, with its text. -/
  written : Option (String × String) := none

/-- The line for a failure: what was attempted and what went wrong, down to the cause. -/
def failureLine (reasons : List String) : String :=
  "❌ " ++ ": ".intercalate reasons

/-- A run that failed after some output. -/
def Outcome.failure (output reasons : List String) : Outcome :=
  { status := 1, output, complaints := [failureLine reasons] }

/-- A run whose arguments were refused. -/
def Outcome.usage (line : String) : Outcome :=
  { status := 2, complaints := ["error: invalid arguments", "Usage: " ++ line] }

/-- A run that comes to lines of output, or fails without any. -/
def Outcome.ofLines : Except (List String) (List String) → Outcome
  | .ok output => { output }
  | .error reasons => .failure [] reasons

/-- An error and what it was caused by. -/
def reasonsOf (e : Error) : List String :=
  match e with
  | .io problem | .json problem | .config problem => [e.message, problem]
  | e => [e.message]

end Subschema.CommandLine
