/-
`Document/Json.lean` -- the written form of documents.

A document as a JSON record of its path, dialect and nodes. A node without a parent or without
children leaves that field out. A text is a document when it fits the record and its links agree.

Specification: B.7.
-/
import Signpost.Document.Links
import Signpost.Location.Json
import Signpost.Json.Reader
import Signpost.Failure

set_option autoImplicit false

namespace Signpost

namespace Dialect

/-- The word for a dialect. -/
def tag : Dialect → String
  | .config => "config"
  | .template => "template"

/-- The dialect of a word. -/
def ofTag? : String → Option Dialect
  | "config" => some .config
  | "template" => some .template
  | _ => none

end Dialect

namespace NodeKind

/-- The word for a kind. -/
def tag : NodeKind → String
  | .document => "document"
  | .mapping => "mapping"
  | .sequence => "sequence"
  | .keyValue => "key_value"
  | .key => "key"
  | .scalar => "scalar"
  | .printBlock => "print_block"
  | .tagBlock => "tag_block"
  | .identifier => "identifier"
  | .stringLiteral => "string_literal"
  | .punct => "punct"
  | .text => "text"
  | .whitespace => "whitespace"

/-- The kind of a word. -/
def ofTag? : String → Option NodeKind
  | "document" => some .document
  | "mapping" => some .mapping
  | "sequence" => some .sequence
  | "key_value" => some .keyValue
  | "key" => some .key
  | "scalar" => some .scalar
  | "print_block" => some .printBlock
  | "tag_block" => some .tagBlock
  | "identifier" => some .identifier
  | "string_literal" => some .stringLiteral
  | "punct" => some .punct
  | "text" => some .text
  | "whitespace" => some .whitespace
  | _ => none

theorem ofTag?_tag (k : NodeKind) : ofTag? k.tag = some k := by
  cases k <;> rfl

end NodeKind

theorem Dialect.ofTag?_tag (d : Dialect) : ofTag? d.tag = some d := by
  cases d <;> rfl

namespace Node

/-- Writes a place. -/
def idToJson (id : NodeId) : Json := .nat id.toNat

/-- Writes a node. -/
def toJson (n : Node) : Json :=
  .obj (("kind", .str n.kind.tag) :: ("text", .str n.text) :: ("span", n.span.toJson)
    :: (Json.optionalField "parent" idToJson n.parent
      ++ if n.children.isEmpty then [] else [("children", .arr (n.children.map idToJson))]))

/-- Reads a node. -/
def ofJson? (v : Json) : Option Node :=
  match v.record? ["kind", "text", "span", "parent", "children"] with
  | some [kind, text, span, parent, children] => do
    return ⟨← Json.required (fun k => k.constant?.bind NodeKind.ofTag?) kind,
      ← Json.orElse "" Json.text? text, ← Json.required Span.ofJson? span,
      ← Json.optional Json.uint32? parent, ← Json.orElse [] (Json.list? Json.uint32?) children⟩
  | _ => none

end Node

namespace Document

/-- Writes a document. -/
def toJson (d : Document) : Json :=
  .obj [("path", d.path.toJson), ("dialect", .str d.dialect.tag),
    ("nodes", .arr (d.nodes.toList.map Node.toJson))]

/-- Reads a document, whatever its links. -/
def ofJson? (v : Json) : Option Document :=
  match v.record? ["path", "dialect", "nodes"] with
  | some [path, dialect, nodes] => do
    return ⟨← Json.required Path.ofJson? path,
      ← Json.required (fun k => k.constant?.bind Dialect.ofTag?) dialect,
      (← Json.required (Json.list? Node.ofJson?) nodes).toArray⟩
  | _ => none

/-- The document of a value, if its links agree; `origin` is where the value came from. -/
def accept (origin : Path) (v : Option Json) : Except Failure Document :=
  match v.bind ofJson? with
  | none => .error (.malformed origin .unreadable)
  | some d =>
    match d.linkDefect? with
    | none => .ok d
    | some defect => .error (.malformed origin (.stated defect.message))

/-- The document that a text denotes. -/
def read (origin : Path) (text : String) : Except Failure Document :=
  accept origin (Json.parse? text)

end Document

end Signpost
