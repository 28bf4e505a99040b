import Subschema.CommandLine.Sources
import Subschema.Hierarchy.Dot
import Subschema.Text.Visible

namespace Subschema.CommandLine

/-- What to write, and where. -/
structure ExportRequest where
  sources : Sources
  kind : Kind
  output : Option String
  format : String

/-- The options of the tool. -/
def exportSpecs : List OptionSpec :=
  sourceSpecs ++
    [{ name := "attribute-types", takesValue := false },
     { name := "output", letter := some 'o' },
     { name := "format", letter := some 'f' }]

/-- What arguments ask for, if they are proper ones. -/
def ExportRequest.parse? (arguments : List String) : Option ExportRequest := do
  let (given, operands) ← readArguments exportSpecs arguments
  if !operands.isEmpty || !givenOnce exportSpecs given || !sourceValuesFit given ||
      (valuesOf given "output").contains "" then none
  else
    return { sources :=
               { settingsFile := (valuesOf given "config").head?
                 paths := valuesOf given "schema"
                 withoutCore := isGiven given "no-core" }
             kind := if isGiven given "attribute-types" then .attributeType else .objectClass
             output := (valuesOf given "output").head?
             format := (valuesOf given "format").head?.getD "dot" }

/-- A character of a quoted path. -/
def quoteChar (c : Char) : List Char :=
  if c = '"' ∨ c = '\\' then ['\\', c]
  else if c = '\n' then ['\\', 'n']
  else if c = '\r' then ['\\', 'r']
  else if c = '\t' then ['\\', 't']
  else if c.toNat = 0 then ['\\', '0']
  else if Text.isVisible c then [c]
  else ['\\', 'u', '\x7b'] ++ Text.hexDigits c.toNat ++ ['\x7d']

/-- A path in quotes, with escapes for what cannot be seen. -/
def quotePath (path : String) : String :=
  "\"" ++ String.ofList (path.toList.flatMap quoteChar) ++ "\""

/-- The line about the size of a hierarchy. -/
def sizeLine (h : Hierarchy) (kind : Kind) : String :=
  "Hierarchy loaded: " ++ toString h.nodeCount ++ " " ++ kind.display ++ " definitions, " ++
    toString h.edgeCount ++ " edges"

/-- Writes a graph to a file. -/
def writeDot (tree : FileTree) (lines : List String) (dot path : String) : Outcome :=
  match tree.writeProblem? path with
  | some problem => .failure lines ["Failed to write " ++ path, problem]
  | none =>
    { output := lines ++ ["✅ Exported DOT to: " ++ quotePath path], written := some (path, dot) }

/-- Writes a graph for a drawing to be made of. The program that makes drawings is not at hand, so
that is as far as it goes. -/
def writeDrawing (tree : FileTree) (lines : List String) (dot path : String) : Outcome :=
  let draft := Path.replaceExtension path "temp.dot"
  match tree.writeProblem? draft with
  | some problem => .failure lines [problem]
  | none =>
    let reasons := ["Failed to run graphviz `dot`", "No such file or directory (os error 2)"]
    { Outcome.failure lines reasons with written := some (draft, dot) }

/-- Exports the hierarchy of a schema. -/
def exportSchema (tree : FileTree) (schema : Schema) (request : ExportRequest) : Outcome :=
  let h := Hierarchy.ofRegistry (schema.registry request.kind)
  let lines := [sizeLine h request.kind]
  match request.format with
  | "dot" => writeDot tree lines h.toDot (request.output.getD "hierarchy.dot")
  | "svg" => writeDrawing tree lines h.toDot (request.output.getD "hierarchy.svg")
  | format => .failure lines ["Invalid format '" ++ format ++ "'. Use 'dot' or 'svg'"]

/-- The usage of the tool. -/
def exportUsage : String :=
  "schema-graph-export [-c FILE] [-s PATH]... [--no-core] [--attribute-types] [-o FILE] [-f FORMAT]"

/-- A run of the tool. -/
def runExport (surroundings : Surroundings) (arguments : List String) : Outcome :=
  match ExportRequest.parse? arguments with
  | none => .usage exportUsage
  | some request =>
    match loadSchema surroundings request.sources with
    | .error reasons => .failure [] reasons
    | .ok (_, schema) => exportSchema surroundings.tree schema request

end Subschema.CommandLine
