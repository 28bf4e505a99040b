import Subschema.Core
import Subschema.FileTree
import Subschema.Hierarchy
import Subschema.Json.Reader
import Subschema.Schema
import Subschema.Sha256

namespace Subschema

/-- The document that a text spells, if it spells one. -/
def Document.read? (text : String) : Option Document :=
  (Json.parse? text).bind Document.ofJson?

/-- Directories below a given one that are passed over unless asked otherwise. -/
def defaultSkipPrefixes : List String := ["target/", ".git/", "node_modules/"]

/-- Documents collected for loading, each with the path to show for it. They are loaded as a whole
or not at all. -/
structure Bundle where
  skipPrefixes : List String := defaultSkipPrefixes
  sources : List (String × String) := []

/-- An order in which the definitions of each registry are gone through. A registry does not keep them in
any order of its own. -/
structure Listing where
  list : Registry → List Definition
  perm : ∀ registry, (list registry).Perm registry.store.toList

/-- The definitions in the order of their identifiers. -/
def Listing.sorted : Listing where
  list := fun registry => registry.store.toList
  perm := fun _ => .refl _

/-- What a load has done. -/
structure Report where
  /-- The hash of the texts of all documents, back to back. -/
  fingerprint : String
  files : Nat
  /-- The names that documents give themselves. -/
  schemas : List String
  objectClasses : Nat
  attributeTypes : Nat
  deriving DecidableEq

/-- The number of definitions loaded. -/
def Report.definitions (report : Report) : Nat :=
  report.objectClasses + report.attributeTypes

namespace Bundle

/-- The bundle with one more document. -/
def addText (bundle : Bundle) (origin text : String) : Bundle :=
  { bundle with sources := bundle.sources ++ [(origin, text)] }

/-- Adds files in order until one is no text, and says how many there were. -/
def addFiles (bundle : Bundle) : Nat → List (String × ByteArray) → Except Error Nat × Bundle
  | count, [] => (.ok count, bundle)
  | count, (origin, content) :: files =>
    match String.fromUTF8? content with
    | some text => (bundle.addText origin text).addFiles (count + 1) files
    | none => (.error (.io "stream did not contain valid UTF-8"), bundle)

/-- Whether a path below a directory is to be passed over. -/
def skips (bundle : Bundle) (path : String) : Bool :=
  let path := path.replace "\\" "/"
  bundle.skipPrefixes.any fun start => path.startsWith start

/-- Adds the file that a path leads to, or all schema documents below a directory, in the order of
their paths. -/
def addPath (bundle : Bundle) (tree : FileTree) (path : String) : Except Error Nat × Bundle :=
  match tree.locate? path with
  | none => (.error (.load path "no such file or directory"), bundle)
  | some place =>
    match tree.read? place with
    | some content => bundle.addFiles 0 [(path, content)]
    | none =>
      if tree.isDirectory place then
        let found := (tree.below place).filter fun (file, _) =>
          Path.extension? file = some "json" && !bundle.skips file
        bundle.addFiles 0
          ((found.map fun (file, content) => (Path.join path file, content)).mergeSort
            fun a b => (Path.order a.1 b.1).isLE)
      else (.error (.load path "no such file or directory"), bundle)

/-- Adds the schema documents among files that are built in, in the order of their paths. Files
that are no text are left out. -/
def addBuiltIn (bundle : Bundle) (files : List (String × ByteArray)) : Nat × Bundle :=
  let found := files.filterMap fun (path, content) =>
    if Path.extension? path = some "json" then
      (String.fromUTF8? content).map fun text => (path, text)
    else none
  let found := found.mergeSort fun a b => (Path.order a.1 b.1).isLE
  (found.length, { bundle with sources := bundle.sources ++ found })

/-- The documents of a bundle, each with its path. -/
def documents (bundle : Bundle) : Except Error (List (String × Document)) :=
  bundle.sources.mapM fun (origin, text) =>
    match Document.read? text with
    | some document => .ok (origin, document)
    | none => .error (.malformedDocument origin)

/-- The hash of all texts of a bundle, one after the other. -/
def fingerprint (bundle : Bundle) : String :=
  Sha256.hexDigest (bundle.sources.flatMap fun (_, text) => text.toUTF8.toList)

/-- The definitions of a kind in some documents. -/
def definitions (documents : List (String × Document)) (kind : Kind) :
    Except Error (List Definition) :=
  (documents.flatMap fun (origin, document) =>
    (document.entries kind).map fun entry => (origin, entry)).mapM fun (origin, entry) =>
      match entry.toDefinition kind with
      | .ok d => .ok d
      | .error e => .error (.load origin e.message)

/-- Refuses definitions whose identifier is registered or occurs earlier. -/
def checkDistinct (registry : Registry) : TextSet → List Definition → Except Error Unit
  | _, [] => .ok ()
  | seen, d :: batch =>
    if registry.contains d.oid.text || seen.contains d.oid.text then
      .error (.duplicateOid d.oid.text)
    else checkDistinct registry (seen.insert d.oid.text) batch

/-- Registers definitions one after the other. -/
def registerAll (registry : Registry) (batch : List Definition) : Except Error Registry :=
  batch.foldlM (fun registry d => (registry.register d).map (·.2)) registry

/-- The definitions of a batch in the order of given identifiers. -/
def arrange (batch : List Definition) (order : List String) : List Definition :=
  let byOid : Std.ExtTreeMap String Definition :=
    batch.foldl (fun byOid d => byOid.insert d.oid.text d) ∅
  order.filterMap fun oid => byOid[oid]?

/-- Registers definitions of one kind superiors first, once they are known to be distinct and,
together with what is registered, free of cycles. What is registered comes first, in any order; the
order in which the batch goes in depends on it. -/
def registerBatch (listing : Listing) (registry : Registry) (batch : List Definition) :
    Except Error Registry := do
  checkDistinct registry ∅ batch
  let order ← (Hierarchy.ofDefinitions (listing.list registry ++ batch)).superiorsFirst
  registerAll registry (arrange batch order)

/-- Registers the definitions of a kind in some documents, and counts them. -/
def loadKind (listing : Listing) (documents : List (String × Document)) (schema : Schema)
    (kind : Kind) : Except Error (Nat × Schema) := do
  let batch ← definitions documents kind
  let registry ← registerBatch listing (schema.registry kind) batch
  return (batch.length, schema.setRegistry kind registry)

/-- What is reported of some documents and the numbers of definitions in them. -/
def report (bundle : Bundle) (documents : List (String × Document))
    (objectClasses attributeTypes : Nat) : Report where
  fingerprint := bundle.fingerprint
  files := documents.length
  schemas := documents.filterMap fun (_, document) => document.name
  objectClasses := objectClasses
  attributeTypes := attributeTypes

/-- Registers what is in the documents of a bundle: attribute types, then object classes. -/
def loadDocuments (listing : Listing) (bundle : Bundle) (documents : List (String × Document))
    (schema : Schema) : Except Error (Report × Schema) := do
  let (attributeTypes, schema) ← loadKind listing documents schema .attributeType
  let (objectClasses, schema) ← loadKind listing documents schema .objectClass
  return (bundle.report documents objectClasses attributeTypes, schema)

/-- Registers everything in a bundle on a copy of the schema. -/
def loadBy (listing : Listing) (bundle : Bundle) (schema : Schema) :
    Except Error (Report × Schema) := do
  let documents ← bundle.documents
  bundle.loadDocuments listing documents schema.copy

/-- Registers everything in a bundle, with what is registered taken in order. -/
def load (bundle : Bundle) (schema : Schema) : Except Error (Report × Schema) :=
  bundle.loadBy .sorted schema

end Bundle

/-- Loads the core document. -/
def Schema.loadCore (schema : Schema) : Except Error (Report × Schema) :=
  (({} : Bundle).addBuiltIn Core.files).2.load schema

/-- Loads a file, or all schema documents below a directory. -/
def Schema.loadPath (schema : Schema) (tree : FileTree) (path : String) :
    Except Error (Report × Schema) :=
  match ({} : Bundle).addPath tree path with
  | (.ok _, bundle) => bundle.load schema
  | (.error e, _) => .error e

/-- What a load is configured to take in. -/
structure LoadOptions where
  paths : List String := []
  includeCore : Bool := true
  skipPrefixes : List String := defaultSkipPrefixes
  deriving DecidableEq

/-- Adds paths one after the other. -/
def Bundle.addPaths (bundle : Bundle) (tree : FileTree) : List String → Except Error Bundle
  | [] => .ok bundle
  | path :: paths =>
    match bundle.addPath tree path with
    | (.ok _, bundle) => bundle.addPaths tree paths
    | (.error e, _) => .error e

/-- Loads what the options name as one bundle, the core document first. -/
def Schema.loadConfigured (schema : Schema) (tree : FileTree) (options : LoadOptions) :
    Except Error (Report × Schema) := do
  let bundle : Bundle := { skipPrefixes := options.skipPrefixes }
  let bundle := if options.includeCore then (bundle.addBuiltIn Core.files).2 else bundle
  let bundle ← bundle.addPaths tree options.paths
  bundle.load schema

/-- The core schema with a policy. -/
def Schema.core (policy : Policy) : Except Error Schema :=
  ((Schema.empty policy).loadCore).map (·.2)

end Subschema
