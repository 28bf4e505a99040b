import Subschema.Proofs.Bytes
import Subschema.Proofs.SavedFiles
import Subschema.Proofs.SettingsTexts
import Subschema.Proofs.Sound
import Subschema.Settings.Sources

namespace Subschema

namespace Setting

theorem lookup_cons_ite (entry : String × Setting) (entries : List (String × Setting)) (name : String) :
    (entry :: entries).lookup name = if name = entry.1 then some entry.2 else entries.lookup name := by
  rw [List.lookup_cons]
  by_cases same : name = entry.1
  · simp [same]
  · rw [beq_false_of_ne same, if_neg same]

theorem lookup_map_replace (entries : List (String × Setting)) (key name : String) (value : Setting) :
    (entries.map fun entry => if entry.1 = key then (key, value) else entry).lookup name =
      if name = key then (entries.lookup key).map fun _ => value else entries.lookup name := by
  induction entries with
  | nil => simp
  | cons entry entries ih =>
    rw [List.map_cons, lookup_cons_ite, lookup_cons_ite, lookup_cons_ite, ih]
    by_cases own : entry.1 = key
    · rw [if_pos own, if_pos own.symm, own]
      split <;> rfl
    · rw [if_neg own, if_neg (Ne.symm own)]
      by_cases same : name = key
      · rw [if_pos same, if_pos same, if_neg (same ▸ Ne.symm own)]
      · rw [if_neg same, if_neg same]

/-- Setting a key changes what is found for it and nothing else. -/
theorem lookup_setEntry (entries : List (String × Setting)) (key name : String) (value : Setting) :
    (setEntry entries key value).lookup name = if name = key then some value else entries.lookup name := by
  unfold setEntry
  split
  · rename_i present
    obtain ⟨old, found⟩ := Option.isSome_iff_exists.1 present
    rw [lookup_map_replace, found]
    rfl
  · rename_i absent
    have none : entries.lookup key = none := Option.not_isSome_iff_eq_none.1 absent
    rw [List.lookup_append, lookup_cons_ite, List.lookup_nil]
    by_cases same : name = key
    · rw [if_pos same, same, none, if_pos rfl, Option.none_or]
    · rw [if_neg same, if_neg same, Option.or_none]

/-- Laying a group of values over entries. The values are laid over what the entries have for the key. -/
theorem put_group (entries : List (String × Setting)) (key : String) (member : String × Setting)
    (members : List (String × Setting)) :
    put entries key (.table (member :: members)) =
      setEntry entries (Text.lower key) (.table (putAll
        ((entries.lookup (Text.lower key)).getD (.table [])).entries (member :: members))) := by
  rw [put, putAll]

/-- What is no group takes the place of what is there. -/
theorem put_of_ne_table {value : Setting} (single : ∀ members, value ≠ .table members)
    (entries : List (String × Setting)) (key : String) :
    put entries key value = setEntry entries (Text.lower key) value := by
  cases value with
  | table members => exact absurd rfl (single members)
  | nothing | boolean | integer | real | text | list => rw [put] <;> simp

theorem policy?_tag (policy : Policy) : policy? (.text policy.tag) = some policy := by
  cases policy <;> decide

theorem texts?_map_text (texts : List String) : texts? (.list (texts.map .text)) = some texts := by
  rw [texts?]
  induction texts with
  | nil => rfl
  | cons s texts ih => rw [List.map_cons, List.mapM_cons, ih]; rfl

theorem decodeField_of_lookup {α : Type} {entries : List (String × Setting)} {key : String}
    {value : Setting} (found : entries.lookup key = some value) (place : Nat) (default : α)
    (decode : Setting → Option α) :
    decodeField (.table entries) key place default decode = decode value := by
  rw [decodeField, field?, found]
  rfl

theorem overlay_nil (entries : List (String × Setting)) : overlay entries [] = entries := rfl

/-- The steps to a key that has neither dots nor brackets are the key. -/
theorem overlay_cons {entries : List (String × Setting)} {key : String} (plain : pathOf key = [.key key])
    (value : Setting) (source : List (String × Setting)) :
    overlay entries ((key, value) :: source) = overlay (put entries key value) source := by
  have step : layBelow value (pathOf key) (table entries) = table (put entries key value) := by
    rw [plain]
    rfl
  simp only [overlay, List.foldl_cons, step]

end Setting

namespace Settings

/-- What a settings file sets. -/
def tables (settings : Settings) : List (String × Setting) :=
  [("registry", .table [("forward_references", .text settings.policy.tag)]),
   ("loader", .table
      [("paths", .list (settings.load.paths.map .text)),
       ("include_core", .boolean settings.load.includeCore),
       ("skip_prefixes", .list (settings.load.skipPrefixes.map .text))]),
   ("logging", .table [("filter", .text settings.filter)])]

/-- A settings file is read as the values it was made of. -/
theorem read?_render (settings : Settings) :
    Notation.toml.read? settings.render = some settings.tables := by
  have items (texts : List String) : Toml.toSettings (texts.map .text) = texts.map .text := by
    induction texts with
    | nil => rfl
    | cons s texts ih => rw [List.map_cons, Toml.toSettings, ih]; rfl
  have spelt : Setting.ofToml? settings.render = some (.table settings.tables) := by
    rw [Setting.ofToml?, settings.parse?_render]
    simp [document, tables, Toml.toSetting, Toml.toEntries, items]
  rw [Notation.read?]
  simp only [spelt]

/-- Whatever the settings file is laid over, each of its keys is then found with the value that it sets. -/
theorem lookup_overlay (settings : Settings) (lower : List (String × Setting)) :
    ∃ registry loader logging,
      (Setting.overlay lower settings.tables).lookup "registry" = some (.table registry) ∧
      (Setting.overlay lower settings.tables).lookup "loader" = some (.table loader) ∧
      (Setting.overlay lower settings.tables).lookup "logging" = some (.table logging) ∧
      registry.lookup "forward_references" = some (.text settings.policy.tag) ∧
      loader.lookup "paths" = some (.list (settings.load.paths.map .text)) ∧
      loader.lookup "include_core" = some (.boolean settings.load.includeCore) ∧
      loader.lookup "skip_prefixes" = some (.list (settings.load.skipPrefixes.map .text)) ∧
      logging.lookup "filter" = some (.text settings.filter) := by
  have small : ∀ key ∈ ["registry", "loader", "logging", "forward_references", "paths", "include_core",
      "skip_prefixes", "filter"], Text.lower key = key := by decide
  have plain : ∀ key ∈ ["registry", "loader", "logging"], Setting.pathOf key = [.key key] := by decide
  simp only [List.forall_mem_cons] at small plain
  rw [tables, Setting.overlay_cons plain.1, Setting.overlay_cons plain.2.1,
    Setting.overlay_cons plain.2.2.1, Setting.overlay_nil]
  simp [Setting.put_group, Setting.putAll, Setting.put_of_ne_table, Setting.lookup_setEntry, small]

/-- A settings file says everything there is to say, so that whatever is laid under it does not
show. -/
theorem decodeSettings_overlay (settings : Settings) (lower : List (String × Setting)) :
    (Setting.table (Setting.overlay lower settings.tables)).decodeSettings = some settings := by
  obtain ⟨registry, loader, logging, atRegistry, atLoader, atLogging, policy, paths, core, skips, filter⟩ :=
    settings.lookup_overlay lower
  simp [Setting.decodeSettings, Setting.decodeField_of_lookup atRegistry,
    Setting.decodeField_of_lookup atLoader, Setting.decodeField_of_lookup atLogging,
    Setting.decodeField_of_lookup policy, Setting.decodeField_of_lookup paths,
    Setting.decodeField_of_lookup core, Setting.decodeField_of_lookup skips,
    Setting.decodeField_of_lookup filter, Setting.policy?_tag, Setting.texts?_map_text,
    Setting.truth?, Setting.text?]

end Settings

namespace Surroundings

variable {surroundings : Surroundings} {settings : Settings} {path : String}

theorem readFile_render (settings : Settings) (path : String) :
    readFile path settings.render.toUTF8 .toml = .ok settings.tables := by
  have bytes : dropByteMark settings.render.toUTF8.toList = settings.render.toUTF8.toList := by
    rw [Text.toList_toUTF8_eq_flatMap, Settings.render, String.toList_ofList]
    rfl
  rw [readFile, bytes, Text.ofBytesLossy_toUTF8, settings.read?_render]

/-- A file that is not there sets nothing. -/
theorem optionalFile_of_missing (missing : (surroundings.findFile path).isOk = false) :
    surroundings.optionalFile path = .ok [] := by
  rw [optionalFile]
  cases found : surroundings.findFile path with
  | error e => rfl
  | ok file =>
    rw [found] at missing
    exact absurd missing (by simp [Except.isOk, Except.toBool])

/-- The file that has been saved is the one that is read. -/
theorem requiredFile_saved (toml : Path.extension? (Path.join surroundings.workingPath path) = some "toml")
    (holds : surroundings.tree.readPath? (Path.join surroundings.workingPath path) =
      some settings.render.toUTF8) :
    surroundings.requiredFile path = .ok settings.tables := by
  have style : Notation.ofPath? (Path.join surroundings.workingPath path) = some .toml := by
    rw [Notation.ofPath?, toml]
    rfl
  have found : surroundings.findFile path = .ok (settings.render.toUTF8, .toml) := by
    simp only [findFile, holds, style]
  rw [requiredFile, found]
  exact readFile_render settings path

/-- A file that has to be there is laid over all other files, and under the environment. -/
theorem sources_some {lower : List (List (String × Setting))} {source : List (String × Setting)}
    (readable : surroundings.sources none = .ok lower)
    (required : surroundings.requiredFile path = .ok source) :
    ∃ files, surroundings.sources (some path) =
      .ok (files ++ [source, Environment.settings surroundings.environment]) := by
  obtain ⟨localOnes, ofLocal, readable⟩ := bind_eq_ok_iff.1 readable
  obtain ⟨userOnes, ofUser, -⟩ := bind_eq_ok_iff.1 readable
  have one : (some path).toList.mapM surroundings.requiredFile = .ok [source] := by
    rw [Option.toList_some, List.mapM_cons, required]
    rfl
  refine ⟨localOnes ++ userOnes, bind_eq_ok_iff.2 ⟨localOnes, ofLocal, bind_eq_ok_iff.2
    ⟨userOnes, ofUser, bind_eq_ok_iff.2 ⟨[source], one, ?_⟩⟩⟩⟩
  exact congrArg Except.ok (List.append_assoc _ _ _)

/-- Where no variable gives a setting, the environment gives none. -/
theorem settings_environment (unset : ∀ entry ∈ surroundings.environment,
    Environment.keyOf? entry.1 = none) : Environment.settings surroundings.environment = [] := by
  refine List.filterMap_eq_nil_iff.2 fun entry member => ?_
  simp only [unset entry member, Option.map_none]

/-- If the files around can be read, a file with the text of settings gives these settings. -/
theorem settings_saved {lower : List (List (String × Setting))}
    (unset : ∀ entry ∈ surroundings.environment, Environment.keyOf? entry.1 = none)
    (readable : surroundings.sources none = .ok lower)
    (required : surroundings.requiredFile path = .ok settings.tables) :
    surroundings.settings (some path) = .ok settings := by
  obtain ⟨files, sources⟩ := sources_some readable required
  rw [settings_environment unset] at sources
  refine bind_eq_ok_iff.2 ⟨_, sources, ?_⟩
  rw [List.foldl_append, List.foldl_cons, List.foldl_cons, List.foldl_nil, Setting.overlay_nil,
    settings.decodeSettings_overlay]
  rfl

end Surroundings

/-- Settings that are saved to a TOML file are the ones that are loaded when that file is asked for,
whatever texts they hold, and whatever the files that it is laid over set, as long as these can be read
and no variable of the environment gives a setting. Saving what has been loaded writes the same text
again and changes no other file. -/
theorem Settings.load_saved (settings : Settings) {tree : FileTree} {path : String}
    (proper : ∀ name ∈ tree.workingDirectory, FileTree.IsEntryName name)
    (toml : Path.extension? path = some "toml") (free : tree.writeProblem? path = none) :
    ∃ saved, settings.save tree path = .ok saved ∧
      ∀ environment : List (String × String),
        (∀ entry ∈ environment, Environment.keyOf? entry.1 = none) →
        (∃ lower, (⟨saved, environment⟩ : Surroundings).sources none = .ok lower) →
        ∃ loaded, (⟨saved, environment⟩ : Surroundings).settings (some path) = .ok loaded ∧
          loaded = settings ∧ loaded.save saved path = .ok saved := by
  obtain ⟨saved, written, same, again, found⟩ := FileTree.exists_saved proper free settings.render.toUTF8
  have rewritten : settings.save saved path = .ok saved := by
    rw [save, again]
    rfl
  refine ⟨saved, ?_, ?_⟩
  · rw [save, written]
    rfl
  rintro environment unset ⟨lower, readable⟩
  have required : (⟨saved, environment⟩ : Surroundings).requiredFile path = .ok settings.tables := by
    rw [← same] at proper
    exact Surroundings.requiredFile_saved (FileTree.extension?_join proper toml) found
  exact ⟨settings, Surroundings.settings_saved unset readable required, rfl, rewritten⟩

/-- Settings whose texts need different quotes. -/
def Sample.quoted : Settings where
  policy := .reject
  load :=
    { paths := ["C:\\new\t\"x\"", "it's \"\"\"\n"]
      includeCore := false
      skipPrefixes := ["\x00'''"] }
  filter := "\\d 'a'"

/-- A working directory with a file that sets all that can be set. -/
def Sample.home : FileTree where
  workingDirectory := ["srv"]
  files := [(["srv", "directory-schema.toml"], ({} : Settings).render.toUTF8)]

/-- What is found in the working directory when other settings have been saved there. -/
def Sample.around : Surroundings where
  tree := Sample.home.insert ["srv", "own.toml"] Sample.quoted.render.toUTF8
  environment := [("HOME", "/srv")]

theorem Sample.save_quoted : Sample.quoted.save Sample.home "own.toml" = .ok Sample.around.tree := by
  have free : Sample.home.writeProblem? "own.toml" = none := by decide
  have place : Sample.home.locate? "own.toml" = some ["srv", "own.toml"] := by decide
  rw [Settings.save, FileTree.write, free, place]
  rfl

theorem Sample.sources_around : Sample.around.sources none = .ok [({} : Settings).tables, [], [], []] := by
  have first : Sample.around.optionalFile "directory-schema.toml" = .ok ({} : Settings).tables :=
    Surroundings.readFile_render {} _
  have second : Sample.around.optionalFile ".directory-schema.toml" = .ok [] :=
    Surroundings.optionalFile_of_missing (by decide +kernel)
  have third : Sample.around.optionalFile "config/directory-schema.toml" = .ok [] :=
    Surroundings.optionalFile_of_missing (by decide +kernel)
  have ofUser : Sample.around.userFile?.filter Sample.around.holds = none := by decide +kernel
  refine bind_eq_ok_iff.2 ⟨[({} : Settings).tables, [], []], ?_, ?_⟩
  · rw [Surroundings.localFiles, List.mapM_cons, List.mapM_cons, List.mapM_cons, first, second, third]
    rfl
  · rw [ofUser]
    rfl

/-- The file in the working directory sets other values for all keys, and none of them is left. -/
theorem Settings.load_saved_quoted :
    ∃ saved, Sample.quoted.save Sample.home "own.toml" = .ok saved ∧
      (⟨saved, [("HOME", "/srv")]⟩ : Surroundings).settings (some "own.toml") = .ok Sample.quoted := by
  have proper : ∀ name ∈ Sample.home.workingDirectory, FileTree.IsEntryName name := by
    have srv : FileTree.IsEntryName "srv" := ⟨by decide, by decide, by decide, by decide⟩
    simp [Sample.home, srv]
  obtain ⟨saved, written, loads⟩ := Sample.quoted.load_saved proper
    (show Path.extension? "own.toml" = some "toml" by decide) (by decide)
  cases Except.ok.inj (written.symm.trans Sample.save_quoted)
  obtain ⟨loaded, load, rfl, -⟩ := loads [("HOME", "/srv")] (by decide) ⟨_, Sample.sources_around⟩
  exact ⟨_, Sample.save_quoted, load⟩

end Subschema
