import Subschema.CommandLine.Outcome
import Subschema.CommandLine.Sources
import Subschema.Encoding.Definition
import Subschema.Json.Writer
import Subschema.Search

namespace Subschema.CommandLine

/-- A question. -/
inductive Query where
  | stats
  | resolve (name : String)
  | describe (name : String) (json : Bool)
  | descendants (name : String)
  | search (text : String) (limit : Nat)
  | check (strict : Bool)
  deriving DecidableEq

/-- A question with what it is about. -/
structure QueryRequest where
  sources : Sources
  kind : Kind
  query : Query

/-- The options that may stand before and after a command. -/
def sharedSpecs : List OptionSpec :=
  sourceSpecs ++ [{ name := "kind", letter := some 'k' }]

/-- The options that a command has for itself, if there is such a command. -/
def commandSpecs? : String → Option (List OptionSpec)
  | "stats" | "resolve" | "descendants" => some []
  | "show" => some [{ name := "json", takesValue := false }]
  | "search" => some [{ name := "limit", letter := some 'l' }]
  | "check" => some [{ name := "strict", takesValue := false }]
  | _ => none

/-- The kind of a name on the command line. -/
def kindOfName? : String → Option Kind
  | "object-class" => some .objectClass
  | "attribute-type" => some .attributeType
  | _ => none

/-- Whether the values of the shared options are proper ones. -/
def sharedValuesFit (given : List Occurrence) : Bool :=
  sourceValuesFit given && (valuesOf given "kind").all fun name => (kindOfName? name).isSome

/-- The question that a command asks with its options and operands. -/
def queryOf? (command : String) (given : List Occurrence) (operands : List String) : Option Query :=
  match command, operands with
  | "stats", [] => some .stats
  | "resolve", [name] => some (.resolve name)
  | "show", [name] => some (.describe name (isGiven given "json"))
  | "descendants", [name] => some (.descendants name)
  | "search", [text] =>
    match valuesOf given "limit" with
    | [] => some (.search text 10)
    | limit :: _ => (count64? limit.toList).map (.search text)
  | "check", [] => some (.check (isGiven given "strict"))
  | _, _ => none

/-- The question that arguments ask, if they are proper ones. -/
def QueryRequest.parse? (arguments : List String) : Option QueryRequest := do
  let (outer, rest) ← readOptions sharedSpecs arguments
  match rest with
  | [] => none
  | command :: rest =>
    let specs := sharedSpecs ++ (← commandSpecs? command)
    let (inner, operands) ← readArguments specs rest
    if !(givenOnce sharedSpecs outer && givenOnce specs inner && sharedValuesFit outer &&
        sharedValuesFit inner) then none
    else
      let query ← queryOf? command inner operands
      let kind := ((valuesOfBoth outer inner "kind").head?.bind kindOfName?).getD .objectClass
      return { sources :=
                 { settingsFile := (valuesOfBoth outer inner "config").head?
                   paths := valuesOfBoth outer inner "schema"
                   withoutCore := isGiven outer "no-core" || isGiven inner "no-core" }
               kind, query }

/-- Reasons why a name was not found, with the names that come closest. -/
def suggest (registry : Registry) (name : String) (e : Error) : List String :=
  let names := (registry.search name 3).map (·.name)
  if e.isNotFound && !names.isEmpty then
    ("Did you mean: " ++ ", ".intercalate names ++ "?") :: reasonsOf e
  else reasonsOf e

/-- An answer about a name, with suggestions if there is none. -/
def orSuggest {α : Type} (registry : Registry) (name : String) (result : Except Error α) :
    Except (List String) α :=
  result.mapError (suggest registry name)

/-- A text with blanks in front of it up to a width. -/
def padLeft (width : Nat) (s : String) : String :=
  String.ofList (List.replicate (width - s.length) ' ') ++ s

/-- A text with blanks after it up to a width. -/
def padRight (width : Nat) (s : String) : String :=
  s ++ String.ofList (List.replicate (width - s.length) ' ')

/-- The lines about a whole schema. -/
def statsLines (report : Report) (schema : Schema) : List String :=
  ["📚 Directory schema", "  Files loaded:     " ++ toString report.files] ++
    (if report.schemas.isEmpty then []
     else ["  Schemas:          " ++ ", ".intercalate report.schemas]) ++
    ["  Object classes:   " ++ toString schema.objectClasses.size,
     "  Attribute types:  " ++ toString schema.attributeTypes.size,
     "  Fingerprint:      " ++ report.fingerprint]

/-- The lines about a definition. -/
def describeLines (registry : Registry) (name : String) (json : Bool) :
    Except (List String) (List String) := do
  let d ← orSuggest registry name (registry.lookup name)
  if json then return [d.toJson.renderLines]
  else
    let below ← (registry.descendants d.oid.text).mapError reasonsOf
    return [d.render, "  " ++ toString below.length ++ " descendant(s)"]

/-- The lines about what inherits from a definition. -/
def descendantLines (registry : Registry) (name : String) : Except (List String) (List String) := do
  let below ← orSuggest registry name (registry.descendants name)
  let below := below.mergeSort fun a b => (compare a.oid b.oid).isLE
  return ("🔍 " ++ toString below.length ++ " descendant(s) of " ++ name) ::
    below.map fun d => "  " ++ d.oid.text ++ " " ++ d.name

/-- The lines about what a search finds. -/
def searchLines (registry : Registry) (text : String) (limit : Nat) : List String :=
  match registry.search text limit with
  | [] => ["No " ++ registry.kind.display ++ " matches '" ++ text ++ "'"]
  | hits => hits.map fun hit =>
    "  " ++ padLeft 4 (toString hit.score) ++ "  " ++ padRight 40 hit.name ++ " " ++ hit.oid

/-- The lines about superiors of one kind that are not registered. -/
def pendingLines (registry : Registry) : List String :=
  registry.pendingSuperiors.map fun (superior, oids) =>
    "⚠️  " ++ registry.kind.display ++ " " ++ superior ++ " is not registered, named by: " ++
      ", ".intercalate oids

/-- Looks for superiors that are not registered, in one registry after the other. -/
def checkRegistries : List String → List Registry → Except Outcome (List String)
  | lines, [] => .ok lines
  | lines, registry :: registries =>
    if registry.verifyIndex then checkRegistries (lines ++ pendingLines registry) registries
    else
      .error (.failure lines
        ["descendant index for " ++ registry.kind.sectionName ++ " is inconsistent"])

/-- Looks for superiors that are not registered. -/
def checkSchema (schema : Schema) (strict : Bool) : Outcome :=
  match checkRegistries [] [schema.objectClasses, schema.attributeTypes] with
  | .error outcome => outcome
  | .ok lines =>
    let count := toString lines.length
    if lines.isEmpty then
      { output := ["✅ All superiors are registered (" ++ toString schema.size ++ " definitions)"] }
    else if strict then
      .failure lines [count ++ " superior(s) are referenced but not registered"]
    else { output := lines ++ [count ++ " pending superior(s)"] }

/-- The answer to a question about a schema. -/
def Query.answer (report : Report) (schema : Schema) (kind : Kind) (query : Query) : Outcome :=
  let registry := schema.registry kind
  match query with
  | .stats => { output := statsLines report schema }
  | .resolve name =>
    .ofLines ((orSuggest registry name (registry.resolve name)).map fun oid => [oid.text])
  | .describe name json => .ofLines (describeLines registry name json)
  | .descendants name => .ofLines (descendantLines registry name)
  | .search text limit => { output := searchLines registry text limit }
  | .check strict => checkSchema schema strict

/-- The usage of the tool. -/
def queryUsage : String :=
  "schema-registry [-c FILE] [-s PATH]... [--no-core] [-k KIND] " ++
    "<stats|resolve|show|descendants|search|check> [ARGUMENT]"

/-- A run of the tool. -/
def runQuery (surroundings : Surroundings) (arguments : List String) : Outcome :=
  match QueryRequest.parse? arguments with
  | none => .usage queryUsage
  | some request =>
    match loadSchema surroundings request.sources with
    | .error reasons => .failure [] reasons
    | .ok (report, schema) => request.query.answer report schema request.kind

end Subschema.CommandLine
