/-
`Index/Snapshot.lean` -- index snapshots.

An index as an indexer exports it: one list for each kind of entry, under a version number. A
snapshot of another version is refused, but only once it has been read as a whole. Loading a
snapshot tells the index its entries in a fixed order of kinds.

Specification: B.7.
-/
import Signpost.Index
import Signpost.Index.RecordJson
import Signpost.Json.Reader
import Signpost.Json.Printer
import Signpost.Failure

set_option autoImplicit false

namespace Signpost

/-- A class-level declaration with its literal value, if it has one. -/
structure ElementEntry where
  declaration : Declaration
  literal : Option String
  deriving DecidableEq, Repr

/-- An exported index. -/
structure Snapshot where
  version : UInt32 := 1
  elements : List ElementEntry := []
  /-- Later definitions count before earlier ones. -/
  services : List ServiceDefinition := []
  parameters : List ParameterDefinition := []
  classes : List ClassInfo := []
  templates : List Template := []
  routes : List Route := []
  translations : List Declaration := []
  domainFiles : List Declaration := []
  deriving DecidableEq, Repr

namespace ElementEntry

/-- Writes an element. -/
def toJson (e : ElementEntry) : Json :=
  .obj (("declaration", e.declaration.toJson) :: Json.optionalField "literal" .str e.literal)

/-- Reads an element. -/
def ofJson? (v : Json) : Option ElementEntry :=
  match v.record? ["declaration", "literal"] with
  | some [declaration, literal] => do
    return ⟨← Json.required (Declaration.ofJson? 3) declaration, ← Json.optional Json.text? literal⟩
  | _ => none

end ElementEntry

namespace Snapshot

/-- The version of the format. -/
def currentVersion : UInt32 := 1

/-- The snapshot that holds nothing. -/
def empty : Snapshot := {}

/-- The entries of a snapshot in the order in which the index is told them. -/
def entries (s : Snapshot) : List Entry :=
  s.elements.map (fun e => .element e.declaration e.literal)
    ++ s.services.map .service
    ++ s.parameters.map .parameter
    ++ s.classes.map .classInfo
    ++ s.templates.map .template
    ++ s.routes.map .route
    ++ s.translations.map .translation
    ++ s.domainFiles.map .domainFile

/-- The index of a snapshot. -/
def toIndex (s : Snapshot) : Index := .ofEntries s.entries

/-! ## The written form -/

/-- Writes a list. -/
def listToJson {α : Type} (write : α → Json) (xs : List α) : Json := .arr (xs.map write)

/-- Writes a snapshot. -/
def toJson (s : Snapshot) : Json :=
  .obj [("version", .nat s.version.toNat),
    ("elements", listToJson ElementEntry.toJson s.elements),
    ("services", listToJson ServiceDefinition.toJson s.services),
    ("parameters", listToJson ParameterDefinition.toJson s.parameters),
    ("classes", listToJson ClassInfo.toJson s.classes),
    ("templates", listToJson Template.toJson s.templates),
    ("routes", listToJson Route.toJson s.routes),
    ("translations", listToJson Declaration.toJson s.translations),
    ("domain_files", listToJson Declaration.toJson s.domainFiles)]

/-- Reads a list that may be missing. -/
def listOf {α : Type} (read? : Json → Option α) : Option Json → Option (List α) :=
  Json.orElse [] (Json.list? read?)

/-- Reads a snapshot of any version. -/
def ofJson? (v : Json) : Option Snapshot :=
  match v.record? ["version", "elements", "services", "parameters", "classes", "templates",
    "routes", "translations", "domain_files"] with
  | some [version, elements, services, parameters, classes, templates, routes, translations,
      domainFiles] => do
    return {
      version := ← Json.orElse currentVersion Json.uint32? version
      elements := ← listOf ElementEntry.ofJson? elements
      services := ← listOf ServiceDefinition.ofJson? services
      parameters := ← listOf ParameterDefinition.ofJson? parameters
      classes := ← listOf ClassInfo.ofJson? classes
      templates := ← listOf Template.ofJson? templates
      routes := ← listOf Route.ofJson? routes
      translations := ← listOf (Declaration.ofJson? 2) translations
      domainFiles := ← listOf (Declaration.ofJson? 2) domainFiles }
  | _ => none

/-- The snapshot of a value, if its version is the current one; `origin` is where it came from. -/
def accept (origin : Path) (v : Option Json) : Except Failure Snapshot :=
  match v.bind ofJson? with
  | none => .error (.malformed origin .unreadable)
  | some s =>
    if s.version = currentVersion then .ok s
    else .error (.unsupportedVersion s.version currentVersion)

/-- The snapshot that a text denotes. -/
def read (origin : Path) (text : String) : Except Failure Snapshot :=
  accept origin (Json.parse? text)

/-- The text of a snapshot file. -/
def write (s : Snapshot) : String := s.toJson.pretty

end Snapshot

end Signpost
