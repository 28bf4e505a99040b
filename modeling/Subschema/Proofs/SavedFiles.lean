import Subschema.FileTree
import Subschema.Proofs.Arcs

namespace Subschema

namespace Path

theorem parts_append_cons {path : String} {before after : List Char}
    (chars : path.toList = before ++ '/' :: after) :
    parts path =
      (Text.splitAt '/' before).map String.ofList ++ (Text.splitAt '/' after).map String.ofList := by
  rw [parts, Text.split, chars, Text.splitAt_append_cons, List.map_append]

theorem parts_ne_nil (path : String) : parts path ≠ [] := by
  rw [parts, Text.split, ne_eq, List.map_eq_nil_iff]
  exact Text.splitAt_ne_nil _ _

theorem components_absolute {path : String} {rest : List String} (below : rest ≠ [])
    (split : parts path = "" :: rest) : components path = .root :: rest.filterMap component? := by
  obtain ⟨part, others, rfl⟩ := List.exists_cons_of_ne_nil below
  rw [components, split]
  rfl

/-- The last name of a path is the last of its parts that is a component. -/
theorem getLast?_filterMap_parts {path name : String}
    (last : (components path).getLast? = some (.name name)) :
    ((parts path).filterMap component?).getLast? = some (.name name) := by
  have later {first : Component} {others : List Component} (other : first ≠ .name name)
      (last : (first :: others).getLast? = some (.name name)) : others.getLast? = some (.name name) := by
    cases others with
    | nil => simp [other] at last
    | cons second others => simpa using last
  unfold components at last
  split at last
  · simp at last
  · rename_i rest _ split
    rw [split]
    exact later (by simp) last
  · rename_i rest split
    rw [split]
    exact later (by simp) last
  · exact last

section Longer

variable {whole path extension : String} {names : List String}

theorem isAbsolute_of_parts (split : parts whole = "" :: (names ++ parts path)) :
    isAbsolute whole = true := by
  rw [isAbsolute, components_absolute (by simp [parts_ne_nil]) split]
  rfl

/-- Names in front of a path leave its last one where it is. -/
theorem extension?_of_parts (split : parts whole = "" :: (names ++ parts path))
    (ends : extension? path = some extension) : extension? whole = some extension := by
  unfold extension? at ends
  split at ends
  · rename_i name last
    have found := getLast?_filterMap_parts last
    have same : (components whole).getLast? = some (.name name) := by
      rw [components_absolute (by simp [parts_ne_nil]) split, List.filterMap_append,
        List.getLast?_cons, List.getLast?_append, found]
      rfl
    rw [extension?, same]
    exact ends
  · contradiction

end Longer

end Path

namespace FileTree

variable {tree other : FileTree} {place dir : Place} {content : ByteArray}

/-- Directories are those above the working directory or a file. -/
theorem isDirectory_iff : tree.isDirectory dir = true ↔
    dir <+: tree.workingDirectory ∨ ∃ file ∈ tree.files, dir <+: file.1 ∧ dir ≠ file.1 := by
  simp [isDirectory, List.any_eq_true]

/-- Writing a file takes no directory away. -/
theorem isDirectory_insert (place : Place) (content : ByteArray) (isDir : tree.isDirectory dir = true) :
    (tree.insert place content).isDirectory dir = true := by
  rw [isDirectory_iff] at isDir ⊢
  refine isDir.imp_right ?_
  rintro ⟨file, member, below, other⟩
  by_cases same : file.1 = place
  · exact ⟨(place, content), by simp [insert], same ▸ below, same ▸ other⟩
  · exact ⟨file, by simp [insert, member, same], below, other⟩

/-- The place of a file that is written is a directory only if it was one. -/
theorem isDirectory_of_insert (isDir : (tree.insert place content).isDirectory place = true) :
    tree.isDirectory place = true := by
  rw [isDirectory_iff] at isDir ⊢
  refine isDir.imp_right ?_
  rintro ⟨file, member, below, other⟩
  rcases List.mem_append.1 member with kept | new
  · exact ⟨file, (List.mem_filter.1 kept).1, below, other⟩
  · rw [List.mem_singleton.1 new] at other
    exact absurd rfl other

/-- Where one part of a path leads from a directory. -/
def stepInto (place : Place) : String → Place
  | "" | "." => place
  | ".." => place.dropLast
  | name => place ++ [name]

theorem follow_cons (tree : FileTree) (place : Place) (part : String) (rest : List String) :
    tree.follow place (part :: rest) =
      if tree.isDirectory place then tree.follow (stepInto place part) rest else none := by
  by_cases empty : part = ""
  · rw [empty, follow, stepInto]
  by_cases here : part = "."
  · rw [here, follow, stepInto]
  by_cases parent : part = ".."
  · rw [parent, follow, stepInto]
  · rw [follow, stepInto] <;> assumption

theorem walk_cons (tree : FileTree) (place : Place) (part : String) (rest : List String) :
    tree.walk place (part :: rest) =
      if !tree.isDirectory place then
        .error (if (tree.read? place).isSome then "Not a directory (os error 20)"
          else "No such file or directory (os error 2)")
      else if part.utf8ByteSize > nameLimit then .error "File name too long (os error 36)"
      else tree.walk (stepInto place part) rest := by
  by_cases empty : part = ""
  · rw [empty, walk, stepInto]
  by_cases here : part = "."
  · rw [here, walk, stepInto]
  by_cases parent : part = ".."
  · rw [parent, walk, stepInto]
  · rw [walk, stepInto] <;> assumption

/-- A path leads through directories, along names that are not too long. -/
theorem walk_cons_eq_ok {part : String} {rest : List String} {found : Place} :
    tree.walk place (part :: rest) = .ok found ↔ tree.isDirectory place = true ∧
      part.utf8ByteSize ≤ nameLimit ∧ tree.walk (stepInto place part) rest = .ok found := by
  rw [walk_cons]
  by_cases isDir : tree.isDirectory place = true
  · by_cases long : part.utf8ByteSize > nameLimit
    · simp [isDir, long]
    · simp [isDir, long, Nat.le_of_not_lt long]
  · simp [isDir]

/-- Where a path is walked, it is followed to the same place. -/
theorem follow_of_walk {parts : List String} {found : Place} (walked : tree.walk place parts = .ok found) :
    tree.follow place parts = some found := by
  induction parts generalizing place with
  | nil => exact congrArg some (Except.ok.inj walked)
  | cons part rest ih =>
    obtain ⟨isDir, -, later⟩ := walk_cons_eq_ok.1 walked
    rw [follow_cons, if_pos isDir, ih later]

/-- More directories do not change where a path leads. -/
theorem walk_mono (keeps : ∀ dir, tree.isDirectory dir = true → other.isDirectory dir = true)
    {parts : List String} {found : Place} (walked : tree.walk place parts = .ok found) :
    other.walk place parts = .ok found := by
  induction parts generalizing place with
  | nil => exact walked
  | cons part rest ih =>
    obtain ⟨isDir, short, later⟩ := walk_cons_eq_ok.1 walked
    exact walk_cons_eq_ok.2 ⟨keeps place isDir, short, ih later⟩

/-- A name that a directory or a file can have. -/
structure IsEntryName (name : String) : Prop where
  notEmpty : name ≠ ""
  notHere : name ≠ "."
  notParent : name ≠ ".."
  single : '/' ∉ name.toList

theorem stepInto_name {name : String} (whole : IsEntryName name) (place : Place) :
    stepInto place name = place ++ [name] := by
  unfold stepInto
  split
  · exact absurd rfl whole.notEmpty
  · exact absurd rfl whole.notHere
  · exact absurd rfl whole.notParent
  · rfl

/-- The names of the working directory lead down to it. -/
theorem follow_workingDirectory {names : List String} (whole : ∀ name ∈ names, IsEntryName name)
    (above : place ++ names <+: tree.workingDirectory) (rest : List String) :
    tree.follow place (names ++ rest) = tree.follow (place ++ names) rest := by
  induction names generalizing place with
  | nil => simp
  | cons name names ih =>
    obtain ⟨own, later⟩ := List.forall_mem_cons.1 whole
    have isDir : tree.isDirectory place = true :=
      isDirectory_iff.2 (Or.inl ((List.prefix_append _ _).trans above))
    rw [List.append_cons] at above
    rw [List.cons_append, follow_cons, if_pos isDir, stepInto_name own, ih later above, ← List.append_cons]

/-- The parts of the path of a directory, which does not end in a slash unless it is the root. -/
theorem splitAt_directory {names : List String} (whole : ∀ name ∈ names, IsEntryName name)
    (below : names ≠ []) :
    Text.splitAt '/' ("/" ++ "/".intercalate names).toList = [] :: names.map String.toList := by
  have split : Text.splitAt '/' ("/".intercalate names).toList = names.map String.toList := by
    rw [String.toList_intercalate]
    refine Text.splitAt_intercalate (fun part member => ?_) (by simpa using below)
    obtain ⟨name, among, rfl⟩ := List.mem_map.1 member
    exact (whole name among).single
  have root : ("/" ++ "/".intercalate names).toList = [] ++ '/' :: ("/".intercalate names).toList := by
    rw [String.toList_append]
    rfl
  rw [root, Text.splitAt_append_cons, split]
  rfl

theorem getLast?_directory {names : List String} (whole : ∀ name ∈ names, IsEntryName name)
    (below : names ≠ []) : ("/" ++ "/".intercalate names).toList.getLast? ≠ some '/' := by
  intro slash
  obtain ⟨before, chars⟩ := List.getLast?_eq_some_iff.1 slash
  have split := splitAt_directory whole below
  rw [chars, Text.splitAt_append_cons] at split
  have last : (([] : List Char) :: names.map String.toList).getLast? = some [] := by
    rw [← split, List.getLast?_append]
    rfl
  rw [List.getLast?_cons_of_ne_nil (by simpa using below)] at last
  obtain ⟨name, member, empty⟩ := List.mem_map.1 (List.mem_of_getLast? last)
  exact (whole name member).notEmpty (String.toList_inj.1 empty)

/-- A path that does not start at the root goes on from the names of the working directory. -/
theorem parts_join {names : List String} (whole : ∀ name ∈ names, IsEntryName name) {path : String}
    (relative : Path.isAbsolute path = false) :
    Path.parts (Path.join ("/" ++ "/".intercalate names) path) = "" :: (names ++ Path.parts path) := by
  rw [Path.join, if_neg (by simp [relative])]
  by_cases none : names = []
  · -- The path of the root ends in a slash, so that none is put in between.
    subst none
    have chars : ("/" ++ "/".intercalate [] ++ path).toList = [] ++ '/' :: path.toList := by simp
    rw [if_pos (by decide), Path.parts_append_cons chars]
    rfl
  · have parts := splitAt_directory whole none
    have other : ¬("/" ++ "/".intercalate names = "" ∨
        ("/" ++ "/".intercalate names).toList.getLast? = some '/') := by
      rintro (empty | slash)
      · rw [empty] at parts
        simp [Text.splitAt, none] at parts
      · exact getLast?_directory whole none slash
    have chars : ("/" ++ "/".intercalate names ++ "/" ++ path).toList =
        ("/" ++ "/".intercalate names).toList ++ '/' :: path.toList := by
      simp only [String.toList_append, List.append_assoc]
      rfl
    have texts : names.map (String.ofList ∘ String.toList) = names :=
      (List.map_congr_left fun name _ => String.ofList_toList).trans (List.map_id _)
    rw [if_neg other, Path.parts_append_cons chars, parts, List.map_cons, List.map_map, texts]
    rfl

theorem extension?_join {names : List String} (whole : ∀ name ∈ names, IsEntryName name)
    {path extension : String} (ends : Path.extension? path = some extension) :
    Path.extension? (Path.join ("/" ++ "/".intercalate names) path) = some extension := by
  by_cases absolute : Path.isAbsolute path = true
  · rwa [Path.join, if_pos absolute]
  · exact Path.extension?_of_parts (parts_join whole (eq_false_of_ne_true absolute)) ends

/-- The path of the working directory makes no difference in front of another path. -/
theorem locate?_join (whole : ∀ name ∈ tree.workingDirectory, IsEntryName name) {path : String}
    (some : path ≠ "") :
    tree.locate? (Path.join ("/" ++ "/".intercalate tree.workingDirectory) path) = tree.locate? path := by
  by_cases absolute : Path.isAbsolute path = true
  · rw [Path.join, if_pos absolute]
  · have parts := parts_join whole (eq_false_of_ne_true absolute)
    have root : tree.isDirectory [] = true := isDirectory_iff.2 (Or.inl (List.nil_prefix))
    have start := Path.isAbsolute_of_parts parts
    have notEmpty : Path.join ("/" ++ "/".intercalate tree.workingDirectory) path ≠ "" := by
      intro empty
      rw [empty] at start
      exact absurd start (by decide)
    rw [locate?, if_neg notEmpty, if_pos start, parts, follow_cons, if_pos root, stepInto, follow_workingDirectory whole (List.prefix_refl _), List.nil_append,
      locate?, if_neg some, if_neg absolute]

theorem dropWhile_reverse_of_length {parts : List String}
    (long : (parts.reverse.dropWhile (· = "")).reverse.length = parts.length) :
    (parts.reverse.dropWhile (· = "")).reverse = parts := by
  have suffix := List.dropWhile_suffix (l := parts.reverse) (· = "")
  have same := suffix.eq_of_length (by simpa using long)
  rw [same, List.reverse_reverse]

/-- Where a walk along a path starts. -/
def startOf (tree : FileTree) (path : String) : Place :=
  if Path.isAbsolute path then [] else tree.workingDirectory

/-- A text that can be the path of a file: it is not empty, not too long, has no null character, and
does not end in a slash. -/
structure IsFilePath (path : String) : Prop where
  notEmpty : path ≠ ""
  noNull : '\x00' ∉ path.toList
  short : path.utf8ByteSize < pathLimit
  ends : (((Path.parts path).reverse.dropWhile (· = "")).reverse).length = (Path.parts path).length

/-- Nothing is in the way of a file exactly if its path leads to a place that is no directory. -/
theorem writeProblem?_eq_none_iff {path : String} :
    tree.writeProblem? path = none ↔ IsFilePath path ∧ ∃ place,
      tree.walk (tree.startOf path) (Path.parts path) = .ok place ∧ tree.isDirectory place = false := by
  have start : (if Path.isAbsolute path then [] else tree.workingDirectory) = tree.startOf path := rfl
  simp only [writeProblem?, start]
  constructor
  · intro free
    split at free
    · contradiction
    split at free
    · contradiction
    split at free
    · contradiction
    rename_i notEmpty noNull short
    split at free
    · contradiction
    rename_i place walked
    obtain ⟨ends, noDir⟩ : _ ∧ tree.isDirectory place = false := by simpa using free
    have same := dropWhile_reverse_of_length (by simpa using ends)
    rw [same] at walked
    exact ⟨⟨notEmpty, by simpa using noNull, Nat.lt_of_not_le short, congrArg _ same⟩, place, walked, noDir⟩
  · rintro ⟨⟨notEmpty, noNull, short, ends⟩, place, walked, noDir⟩
    rw [dropWhile_reverse_of_length ends, walked, if_neg notEmpty, if_neg (by simpa using noNull),
      if_neg (Nat.not_le_of_lt short)]
    simp [noDir]

theorem locate?_of_walk {path : String} (some : path ≠ "")
    (walked : tree.walk (tree.startOf path) (Path.parts path) = .ok place) :
    tree.locate? path = .some place := by
  rw [locate?, if_neg some]
  exact follow_of_walk walked

theorem read?_insert (tree : FileTree) (place : Place) (content : ByteArray) :
    (tree.insert place content).read? place = some content := by
  have gone : (tree.files.filter (·.1 != place)).lookup place = none := by
    rw [List.lookup_eq_none_iff]
    intro file member
    have other : file.1 ≠ place := by simpa using (List.mem_filter.1 member).2
    simpa using other.symm
  rw [read?, insert, List.lookup_append, gone]
  simp

theorem insert_insert (tree : FileTree) (place : Place) (content : ByteArray) :
    (tree.insert place content).insert place content = tree.insert place content := by
  simp [insert, List.filter_filter]

/-- A file that nothing is in the way of is written, and is then found where its path leads from the working
directory. Writing it again changes nothing. -/
theorem exists_saved (whole : ∀ name ∈ tree.workingDirectory, IsEntryName name) {path : String}
    (free : tree.writeProblem? path = none) (content : ByteArray) :
    ∃ saved : FileTree, tree.write path content = .ok saved ∧
      saved.workingDirectory = tree.workingDirectory ∧ saved.write path content = .ok saved ∧
      saved.readPath? (Path.join ("/" ++ "/".intercalate saved.workingDirectory) path) = some content := by
  obtain ⟨good, place, walked, noDir⟩ := writeProblem?_eq_none_iff.1 free
  have again : (tree.insert place content).walk ((tree.insert place content).startOf path)
      (Path.parts path) = .ok place := walk_mono (fun _ => isDirectory_insert place content) walked
  have stillFree : (tree.insert place content).writeProblem? path = none := by
    refine writeProblem?_eq_none_iff.2 ⟨good, place, again, ?_⟩
    exact eq_false_of_ne_true fun isDir => by simp [isDirectory_of_insert isDir] at noDir
  have found := locate?_of_walk good.notEmpty again
  refine ⟨tree.insert place content, ?_, rfl, ?_, ?_⟩
  · rw [write, free, locate?_of_walk good.notEmpty walked]
  · rw [write, stillFree, found]
    exact congrArg _ (insert_insert tree place content)
  · have still : ∀ name ∈ (tree.insert place content).workingDirectory, IsEntryName name := whole
    rw [readPath?, locate?_join still good.notEmpty, found]
    exact read?_insert tree place content

end FileTree

end Subschema
