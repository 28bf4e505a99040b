import Subschema.Path

namespace Subschema

/-- A place in the file system: the names from the root down. -/
abbrev Place := List String

/-- What a program that reads files can see of the file system: the files, and its working
directory. Directories are there because files are below them, or because the program works in one
of them. -/
structure FileTree where
  workingDirectory : Place
  files : List (Place × ByteArray) := []

namespace FileTree

/-- The tree with one more file, in place of what was there. -/
def insert (tree : FileTree) (place : Place) (content : ByteArray) : FileTree :=
  { tree with files := tree.files.filter (·.1 != place) ++ [(place, content)] }

/-- The content of a file. -/
def read? (tree : FileTree) (place : Place) : Option ByteArray :=
  tree.files.lookup place

/-- Whether a place is a directory. -/
def isDirectory (tree : FileTree) (place : Place) : Bool :=
  place.isPrefixOf tree.workingDirectory ||
    tree.files.any fun file => place.isPrefixOf file.1 && place != file.1

/-- Goes on from a directory along the parts of a path. Only the last step may lead to what is no
directory. -/
def follow (tree : FileTree) (place : Place) : List String → Option Place
  | [] => some place
  | part :: rest =>
    if tree.isDirectory place then
      match part with
      | "" | "." => tree.follow place rest
      | ".." => tree.follow place.dropLast rest
      | name => tree.follow (place ++ [name]) rest
    else none

/-- The place that a path leads to, whether or not anything is there. The empty path leads
nowhere. -/
def locate? (tree : FileTree) (path : String) : Option Place :=
  if path = "" then none
  else tree.follow (if Path.isAbsolute path then [] else tree.workingDirectory) (Path.parts path)

/-- The place that a path names, taken by its text alone. -/
def placeOf (tree : FileTree) (path : String) : Place :=
  (Path.parts path).foldl
    (fun place part =>
      match part with
      | "" | "." => place
      | ".." => place.dropLast
      | name => place ++ [name])
    (if Path.isAbsolute path then [] else tree.workingDirectory)

/-- The content of the file that a path leads to. -/
def readPath? (tree : FileTree) (path : String) : Option ByteArray :=
  (tree.locate? path).bind tree.read?

/-- Whether a path leads to a directory. -/
def isDirectoryPath (tree : FileTree) (path : String) : Bool :=
  (tree.locate? path).any tree.isDirectory

/-- The files below a place, each with its path from there. -/
def below (tree : FileTree) (place : Place) : List (String × ByteArray) :=
  tree.files.filterMap fun (file, content) =>
    if place.isPrefixOf file && place != file then
      some ("/".intercalate (file.drop place.length), content)
    else none

/-- How many bytes a name may have. -/
def nameLimit : Nat := 255

/-- How many bytes a path must stay below. -/
def pathLimit : Nat := 4096

/-- Goes on from a directory along the parts of a path, of which only the last may lead to what is
no directory, or says why that cannot be done. -/
def walk (tree : FileTree) (place : Place) : List String → Except String Place
  | [] => .ok place
  | part :: rest =>
    if !tree.isDirectory place then
      .error (if (tree.read? place).isSome then "Not a directory (os error 20)"
        else "No such file or directory (os error 2)")
    else if part.utf8ByteSize > nameLimit then .error "File name too long (os error 36)"
    else
      match part with
      | "" | "." => tree.walk place rest
      | ".." => tree.walk place.dropLast rest
      | name => tree.walk (place ++ [name]) rest

/-- Why no file can be written where a path leads, if that is so: the directory must be there, and
neither a file nor a directory may be in the way. A slash at the end asks for a directory. -/
def writeProblem? (tree : FileTree) (path : String) : Option String :=
  let parts := Path.parts path
  let names := (parts.reverse.dropWhile (· = "")).reverse
  let start := if Path.isAbsolute path then [] else tree.workingDirectory
  if path = "" then some "No such file or directory (os error 2)"
  else if path.toList.contains '\x00' then some "file name contained an unexpected NUL byte"
  else if path.utf8ByteSize ≥ pathLimit then some "File name too long (os error 36)"
  else
    match tree.walk start names with
    | .error problem => some problem
    | .ok place =>
      if names.length ≠ parts.length ∨ tree.isDirectory place then
        some "Is a directory (os error 21)"
      else none

/-- The tree with a file written where a path leads. -/
def write (tree : FileTree) (path : String) (content : ByteArray) : Except String FileTree :=
  match tree.writeProblem? path, tree.locate? path with
  | none, some place => .ok (tree.insert place content)
  | some problem, _ => .error problem
  | none, none => .error "No such file or directory (os error 2)"

end FileTree

end Subschema
