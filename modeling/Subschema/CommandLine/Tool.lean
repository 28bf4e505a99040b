import Subschema.CommandLine.Export
import Subschema.CommandLine.Query

namespace Subschema.CommandLine

/-- A tool. -/
inductive Tool where
  /-- Answers questions about a schema. -/
  | registry
  /-- Writes the hierarchy of a schema. -/
  | graphExport
  deriving DecidableEq

namespace Tool

/-- The name of a tool. -/
def name : Tool → String
  | .registry => "schema-registry"
  | .graphExport => "schema-graph-export"

/-- The tool of a name; the first one for any other name. -/
def ofName (s : String) : Tool :=
  if s = graphExport.name then .graphExport else .registry

/-- A run of a tool. -/
def run (tool : Tool) (surroundings : Surroundings) (arguments : List String) : Outcome :=
  match tool with
  | .registry => runQuery surroundings arguments
  | .graphExport => runExport surroundings arguments

/-- What arguments say about what to load, if they are proper ones. -/
def sources? (tool : Tool) (arguments : List String) : Option Sources :=
  match tool with
  | .registry => (QueryRequest.parse? arguments).map (·.sources)
  | .graphExport => (ExportRequest.parse? arguments).map (·.sources)

/-- The files that a run looks into for settings. -/
def settingsFiles (surroundings : Surroundings) (sources : Sources) : List String :=
  let files := Surroundings.localFiles ++ surroundings.userFile?.toList ++
    sources.settingsFile.toList
  files ++ files.flatMap fun file => (surroundings.extendedPaths file).map (·.1)

/-- The files and directories that a run loads, once its settings can be read. -/
def schemaPaths (surroundings : Surroundings) (sources : Sources) : List String :=
  match loadSettings surroundings sources with
  | .ok settings => (loadOptions surroundings sources settings).paths
  | .error _ => []

end Tool

end Subschema.CommandLine
