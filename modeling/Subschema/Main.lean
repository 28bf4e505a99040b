import Subschema.CommandLine.Tool

namespace Subschema

/-- The environment variables of this program, none where the system does not list them. -/
def readVariables : IO (List (String × String)) := do
  try
    let content ← IO.FS.readBinFile "/proc/self/environ"
    let text := (String.fromUTF8? content).getD ""
    return (Text.split '\x00' text).filterMap fun line =>
      match line.splitOn "=" with
      | name :: value@(_ :: _) => some (name, "=".intercalate value)
      | _ => none
  catch _ => return []

/-- The tree with a file, or with all files below a directory, if there is such a thing. -/
partial def gather (tree : FileTree) (path : String) : IO FileTree := do
  try
    let real ← IO.FS.realPath path
    if ← real.isDir then
      (← real.readDir).foldlM (fun tree entry => gather tree (Path.join path entry.fileName)) tree
    else return tree.insert (tree.placeOf path) (← IO.FS.readBinFile path)
  catch _ => return tree

/-- The tree with everything that paths lead to. -/
def gatherAll (tree : FileTree) (paths : List String) : IO FileTree :=
  paths.foldlM gather tree

end Subschema

open Subschema CommandLine in
/-- Runs one of the tools, by the name under which the program is called, on the arguments. It
gathers the files that the tool may read, lets the tool run on them as values, and prints what comes
of it. -/
def main (arguments : List String) : IO UInt32 := do
  let tool := Tool.ofName ((← IO.appPath).fileName.getD "")
  let start : FileTree := ⟨(Path.parts (← IO.currentDir).toString).filter (· != ""), []⟩
  let mut surroundings : Surroundings := ⟨start, ← readVariables⟩
  if let some sources := tool.sources? arguments then
    let settingsTree ← gatherAll start (Tool.settingsFiles surroundings sources)
    surroundings := { surroundings with tree := settingsTree }
    let tree ← gatherAll settingsTree (Tool.schemaPaths surroundings sources)
    surroundings := { surroundings with tree }
  let outcome := tool.run surroundings arguments
  outcome.output.forM IO.println
  outcome.complaints.forM IO.eprintln
  if let some (path, text) := outcome.written then IO.FS.writeFile path text
  return outcome.status.toUInt32
