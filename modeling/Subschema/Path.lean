import Subschema.Text.Blank

namespace Subschema.Path

/-- A component of a path. A dot counts only at the start. -/
inductive Component where
  | root
  | here
  | parent
  | name (name : String)
  deriving DecidableEq

/-- The order key of a component: the special ones come before names. -/
def Component.key : Component → Nat × String
  | .root => (0, "")
  | .here => (1, "")
  | .parent => (2, "")
  | .name s => (3, s)

/-- The parts of a path between slashes. -/
def parts (path : String) : List String :=
  Text.split '/' path

/-- A part as a component, empty parts and dots left out. -/
def component? : String → Option Component
  | "" => none
  | "." => none
  | ".." => some .parent
  | name => some (.name name)

/-- The components of a path. -/
def components (path : String) : List Component :=
  match parts path with
  | "" :: [] => []
  | "" :: rest => .root :: rest.filterMap component?
  | "." :: rest => .here :: rest.filterMap component?
  | all => all.filterMap component?

/-- Whether a path starts at the root of the file system. -/
def isAbsolute (path : String) : Bool := (components path).head? = some .root

/-- A path below another. An absolute path stands for itself. -/
def join (base path : String) : String :=
  if isAbsolute path then path
  else if base = "" ∨ base.toList.getLast? = some '/' then base ++ path
  else base ++ "/" ++ path

/-- Order of component keys. -/
def compareKeys : List (Nat × String) → List (Nat × String) → Ordering
  | [], [] => .eq
  | [], _ :: _ => .lt
  | _ :: _, [] => .gt
  | (m, s) :: xs, (n, t) :: ys =>
    ((compare m n).then (compare s t)).then (compareKeys xs ys)

/-- Paths are ordered component by component. -/
def order (a b : String) : Ordering :=
  compareKeys ((components a).map Component.key) ((components b).map Component.key)

/-- What follows the last dot of a name, unless the dot is its first character. -/
def nameExtension? (name : String) : Option String :=
  match (Text.split '.' name).reverse with
  | _ :: [] | [] => none
  | [_, ""] => none
  | last :: _ => some last

/-- The extension of the last component of a path. -/
def extension? (path : String) : Option String :=
  match (components path).getLast? with
  | some (.name name) => nameExtension? name
  | _ => none

/-- A name without its extension. -/
def nameStem (name : String) : String :=
  match nameExtension? name with
  | some extension => String.ofList (name.toList.take (name.length - extension.length - 1))
  | none => name

/-- The names up to the last one of a path, last first. What follows the last name is left out, and
a path that does not end in a name has none. -/
def namesBack? (path : String) : Option (String × List String) :=
  match (parts path).reverse.dropWhile fun part => part = "" || part = "." with
  | [] | ".." :: _ => none
  | name :: before => some (name, before)

/-- A path with another name for its last component. -/
def ofNamesBack (name : String) (before : List String) : String :=
  "/".intercalate (name :: before).reverse

/-- A path with an extension in place of the one it has. -/
def replaceExtension (path extension : String) : String :=
  match namesBack? path with
  | some (name, before) => ofNamesBack (nameStem name ++ "." ++ extension) before
  | none => path

/-- A path with one more extension after the name of its last component. What follows the name is
left out. A path that does not end in a name cannot have one. -/
def addExtension? (path extension : String) : Option String :=
  (namesBack? path).map fun (name, before) => ofNamesBack (name ++ "." ++ extension) before

end Subschema.Path
