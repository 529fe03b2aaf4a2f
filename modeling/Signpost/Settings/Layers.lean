/-
`Settings/Layers.lean` -- the layers of the settings.

Settings are written as a table with a section for each group of them, and read back from such a
table or from the list of its fields in order. Whatever is missing has its usual value. Two forms of
reading differ in one point: in a JSON value a list may not be longer than the fields, while among
the layers that make up the settings of a project it may.

These settings are the usual ones, with those of the settings file laid over them and those of the
environment on top. A delimiter that can occur inside the signature of a method is refused, since
encoded calls could not be taken apart again.

Specification: B.4 and B.6, item 4.
-/
import Signpost.Json.Decode
import Signpost.Settings.Environment
import Signpost.Settings
import Signpost.Toml.Printer
import Signpost.Toml.Reader
import Signpost.Failure

set_option autoImplicit false

namespace Signpost

/-! ## The written form -/

/-- How a value is taken apart into the fields with the given names. -/
abbrev FieldsOf := List String → Json → Option (List (Option Json))

namespace SignatureSettings

/-- The section as a table. -/
def toToml (s : SignatureSettings) : Toml :=
  .table
    [("delimiter", .text s.delimiter.toString),
      ("expected_argument_count", .int s.expectedArgumentCount.toNat)]

/-- Reads the section. -/
def fit? (fieldsOf : FieldsOf) (v : Json) : Option SignatureSettings :=
  match fieldsOf ["delimiter", "expected_argument_count"] v with
  | some [delimiter, count] => do
    let usual : SignatureSettings := {}
    return ⟨← Json.orElse usual.delimiter Json.char? delimiter,
      ← Json.orElse usual.expectedArgumentCount Json.uint64? count⟩
  | _ => none

/-- Reads the section from a JSON value. -/
def ofJson? (v : Json) : Option SignatureSettings := fit? Json.record? v

end SignatureSettings

namespace TemplateSettings

/-- The section as a table. -/
def toToml (s : TemplateSettings) : Toml :=
  .table
    [("trans_function", .text s.transFunction),
      ("default_domain", .text s.defaultDomain),
      ("default_domain_tag", .text s.defaultDomainTag),
      ("route_functions", .array (s.routeFunctions.map .text)),
      ("file_tags", .array (s.fileTags.map .text)),
      ("file_functions", .array (s.fileFunctions.map .text)),
      ("block_function", .text s.blockFunction)]

/-- Reads the section. -/
def fit? (fieldsOf : FieldsOf) (v : Json) : Option TemplateSettings :=
  let names := ["trans_function", "default_domain", "default_domain_tag", "route_functions",
    "file_tags", "file_functions", "block_function"]
  match fieldsOf names v with
  | some [translate, domain, domainTag, routes, fileTags, fileFunctions, block] => do
    let usual : TemplateSettings := {}
    return ⟨← Json.orElse usual.transFunction Json.text? translate,
      ← Json.orElse usual.defaultDomain Json.text? domain,
      ← Json.orElse usual.defaultDomainTag Json.text? domainTag,
      ← Json.orElse usual.routeFunctions (Json.list? Json.text?) routes,
      ← Json.orElse usual.fileTags (Json.list? Json.text?) fileTags,
      ← Json.orElse usual.fileFunctions (Json.list? Json.text?) fileFunctions,
      ← Json.orElse usual.blockFunction Json.text? block⟩
  | _ => none

end TemplateSettings

namespace ContainerSettings

/-- The section as a table. -/
def toToml (s : ContainerSettings) : Toml :=
  .table
    [("max_alias_depth", .int s.maxAliasDepth.toNat),
      ("max_parent_depth", .int s.maxParentDepth.toNat)]

/-- Reads the section. -/
def fit? (fieldsOf : FieldsOf) (v : Json) : Option ContainerSettings :=
  match fieldsOf ["max_alias_depth", "max_parent_depth"] v with
  | some [aliases, parents] => do
    let usual : ContainerSettings := {}
    return ⟨← Json.orElse usual.maxAliasDepth Json.uint64? aliases,
      ← Json.orElse usual.maxParentDepth Json.uint64? parents⟩
  | _ => none

end ContainerSettings

namespace Settings

/-- The entries of the settings, in the order in which they are written. -/
def entries (s : Settings) : List (String × Toml) :=
  [("version", .int s.version.toNat), ("debug", .bool s.debug), ("enabled", .bool s.enabled),
    ("index_path", .text s.indexPath.text)]
    ++ (match s.workspaceRoot with
      | some root => [("workspace_root", Toml.text root.text)]
      | none => [])
    ++ [("signatures", s.signatures.toToml), ("templates", s.templates.toToml),
      ("container", s.container.toToml)]

/-- The settings as a table. -/
def toToml (s : Settings) : Toml := .table s.entries

/-- The settings as a JSON object. -/
def toJson (s : Settings) : Json := s.toToml.toJson

/-- The text of a settings file. -/
def print (s : Settings) : String := Toml.print s.entries

/-- A path. -/
def path? (v : Json) : Option Path := v.text?.map Path.mk

/-- Reads settings. -/
def fit? (fieldsOf : FieldsOf) (v : Json) : Option Settings :=
  let names := ["version", "debug", "enabled", "index_path", "workspace_root", "signatures",
    "templates", "container"]
  match fieldsOf names v with
  | some [version, debug, enabled, indexPath, root, signatures, templates, container] => do
    return ⟨← Json.orElse default.version Json.uint32? version,
      ← Json.orElse default.debug Json.bool? debug,
      ← Json.orElse default.enabled Json.bool? enabled,
      ← Json.orElse default.indexPath path? indexPath,
      ← Json.optional path? root,
      ← Json.orElse default.signatures (SignatureSettings.fit? fieldsOf) signatures,
      ← Json.orElse default.templates (TemplateSettings.fit? fieldsOf) templates,
      ← Json.orElse default.container (ContainerSettings.fit? fieldsOf) container⟩
  | _ => none

/-- Reads settings from a JSON value. -/
def ofJson? (v : Json) : Option Settings := fit? Json.record? v

/-- Reads settings from the value that their layers make up. -/
def ofLayers? (v : Toml) : Option Settings := fit? Json.openRecord? v.toJson

/-! ## Layers -/

/-- Why a delimiter is refused. -/
def delimiterReason (c : Char) : String :=
  "signatures.delimiter '" ++ c.toString ++ "' can occur inside a base signature"

/-- The settings themselves, if their delimiter can be used. -/
def checked (s : Settings) : Except Failure Settings :=
  if Signature.isDelimiter s.signatures.delimiter then .ok s
  else .error (.config (.stated (delimiterReason s.signatures.delimiter)))

/-- What a settings file sets. No file sets nothing. -/
def fileLayer? : Option String → Option Toml
  | none => some (.table [])
  | some text => Toml.parse? text

/-- The value that a settings file and the environment make up. -/
def layers? (file : Option String) (env : Environment) : Option Toml :=
  (fileLayer? file).map fun below => Toml.layered default.toToml [below, env.layer]

/-- The settings that a settings file and the environment make up. -/
def load (file : Option String) (env : Environment) : Except Failure Settings :=
  match (layers? file env).bind ofLayers? with
  | some s => s.checked
  | none => .error (.config .unreadable)

end Settings

end Signpost
