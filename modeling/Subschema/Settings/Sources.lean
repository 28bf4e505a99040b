import Subschema.Settings.Decoding
import Subschema.Settings.Environment
import Subschema.Settings.Notation
import Subschema.Settings.Writer
import Subschema.Text.Lossy

namespace Subschema

/-- What a program finds around it: files and environment variables. -/
structure Surroundings where
  tree : FileTree
  environment : List (String × String) := []

namespace Surroundings

/-- The files in the working directory that may hold settings. -/
def localFiles : List String :=
  ["directory-schema.toml", ".directory-schema.toml", "config/directory-schema.toml"]

/-- The value of an environment variable. -/
def valueOf? (surroundings : Surroundings) (name : String) : Option String :=
  surroundings.environment.lookup name

/-- The directory that users keep their settings in. -/
def userDirectory? (surroundings : Surroundings) : Option String :=
  match (surroundings.valueOf? "XDG_CONFIG_HOME").filter Path.isAbsolute with
  | some directory => some directory
  | none =>
    ((surroundings.valueOf? "HOME").filter (· != "")).map fun home => Path.join home ".config"

/-- The file that may hold settings of the user. -/
def userFile? (surroundings : Surroundings) : Option String :=
  surroundings.userDirectory?.map fun directory =>
    Path.join directory "directory-schema/directory-schema.toml"

/-- The working directory as a path. -/
def workingPath (surroundings : Surroundings) : String :=
  "/" ++ "/".intercalate surroundings.tree.workingDirectory

/-- The files that a path to settings may mean if it leads to none itself: those with one more
extension. -/
def extendedPaths (surroundings : Surroundings) (path : String) : List (String × Notation) :=
  Notation.extensions.filterMap fun (extension, style) =>
    (Path.addExtension? (Path.join surroundings.workingPath path) extension).map (·, style)

/-- The content of the file that a path to settings means, and its notation. -/
def findFile (surroundings : Surroundings) (path : String) : Except Error (ByteArray × Notation) :=
  let whole := Path.join surroundings.workingPath path
  match surroundings.tree.readPath? whole with
  | some content =>
    match Notation.ofPath? whole with
    | some style => .ok (content, style)
    | none =>
      .error (.config ("configuration file \"" ++ whole ++ "\" is not of a registered file format"))
  | none =>
    let found := (surroundings.extendedPaths path).findSome? fun (file, style) =>
      (surroundings.tree.readPath? file).map (·, style)
    match found with
    | some file => .ok file
    | none => .error (.config ("configuration file \"" ++ path ++ "\" not found"))

/-- Bytes without a byte order mark at the start. -/
def dropByteMark : List UInt8 → List UInt8
  | 0xEF :: 0xBB :: 0xBF :: bytes => bytes
  | bytes => bytes

/-- The settings in a file. -/
def readFile (path : String) (content : ByteArray) (style : Notation) :
    Except Error (List (String × Setting)) :=
  match style.read? (Text.ofBytesLossy (dropByteMark content.toList)) with
  | some entries => .ok entries
  | none => .error (.config (path ++ " does not hold settings"))

/-- The settings in a file, none if it is not there. -/
def optionalFile (surroundings : Surroundings) (path : String) :
    Except Error (List (String × Setting)) :=
  match surroundings.findFile path with
  | .ok (content, style) => readFile path content style
  | .error _ => .ok []

/-- The settings in a file that has to be there. -/
def requiredFile (surroundings : Surroundings) (path : String) :
    Except Error (List (String × Setting)) :=
  (surroundings.findFile path).bind fun (content, style) => readFile path content style

/-- Whether a path leads to a file or a directory. -/
def holds (surroundings : Surroundings) (path : String) : Bool :=
  (surroundings.tree.readPath? path).isSome || surroundings.tree.isDirectoryPath path

/-- What every source gives, in the order in which they are laid over one another: files in the
working directory, the file of the user, a file that is asked for, and the environment. -/
def sources (surroundings : Surroundings) (path? : Option String) :
    Except Error (List (List (String × Setting))) := do
  let localOnes ← localFiles.mapM surroundings.optionalFile
  let userOnes ← (surroundings.userFile?.filter surroundings.holds).toList.mapM
    surroundings.optionalFile
  let required ← path?.toList.mapM surroundings.requiredFile
  return localOnes ++ userOnes ++ required ++ [Environment.settings surroundings.environment]

/-- The settings that all sources make together. -/
def settings (surroundings : Surroundings) (path? : Option String) : Except Error Settings := do
  let sources ← surroundings.sources path?
  match (Setting.table (sources.foldl Setting.overlay [])).decodeSettings with
  | some settings => return settings
  | none => throw (.config "a setting has a value of the wrong kind")

end Surroundings

/-- Writes settings to a file. -/
def Settings.save (settings : Settings) (tree : FileTree) (path : String) :
    Except Error FileTree :=
  (tree.write path settings.render.toUTF8).mapError .io

end Subschema
