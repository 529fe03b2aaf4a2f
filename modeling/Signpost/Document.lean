/-
`Document.lean` -- syntax documents.

A document is a syntax tree that a dialect parser has laid out as a row of nodes. A node knows its
kind, its text, its span, its parent and its children by their places in the row; node 0 is the
root. Only some kinds are leaves, and only leaves can be under a caret.

Specification: 3 (tokens) and B.7.
-/
import Signpost.Location

set_option autoImplicit false

namespace Signpost

/-- The language of a document. -/
inductive Dialect where
  /-- Service definitions. -/
  | config
  /-- Templates. -/
  | template
  deriving DecidableEq, Inhabited, Repr

/-- The kinds of nodes of both dialects. -/
inductive NodeKind where
  | document
  | mapping
  | sequence
  /-- A pair; the text of the node is the key. -/
  | keyValue
  | key
  /-- A plain value, with its quotes. -/
  | scalar
  /-- A block that prints. -/
  | printBlock
  /-- A tag; the text of the node is its name. -/
  | tagBlock
  | identifier
  /-- A string, without its quotes. -/
  | stringLiteral
  | punct
  | text
  | whitespace
  deriving DecidableEq, Inhabited, Repr

/-- Whether nodes of the kind have no parts. -/
def NodeKind.isLeaf : NodeKind → Bool
  | .key | .scalar | .identifier | .stringLiteral | .punct | .text | .whitespace => true
  | _ => false

/-- The place of a node in its document. -/
abbrev NodeId := UInt32

/-- A node of a syntax tree. -/
structure Node where
  kind : NodeKind
  text : String
  span : Span
  parent : Option NodeId
  children : List NodeId
  deriving DecidableEq, Inhabited, Repr

/-- A syntax tree. -/
structure Document where
  path : Path
  dialect : Dialect
  nodes : Array Node
  deriving DecidableEq, Inhabited, Repr

namespace Document

/-- The place of the root. -/
def rootId : NodeId := 0

/-- The node at a place. Nothing stands outside the row: what is asked of a place there has the answer
for no node, whoever names the place as its parent or child. -/
def node? (d : Document) (id : NodeId) : Option Node := d.nodes[id.toNat]?

/-- The root, if there is any node. -/
def root? (d : Document) : Option NodeId := (d.node? rootId).map fun _ => rootId

/-- Whether the node at a place is of a kind. -/
def isKind (d : Document) (kind : NodeKind) (id : NodeId) : Bool :=
  (d.node? id).any (·.kind = kind)

/-- Whether the node at a place is a leaf. -/
def isLeaf (d : Document) (id : NodeId) : Bool := (d.node? id).any (·.kind.isLeaf)

/-- The text of the node at a place. -/
def textOf (d : Document) (id : NodeId) : String := ((d.node? id).map Node.text).getD ""

/-- The span of the node at a place. -/
def spanOf (d : Document) (id : NodeId) : Span := ((d.node? id).map Node.span).getD ⟨0, 0⟩

/-- The parent of the node at a place. -/
def parent? (d : Document) (id : NodeId) : Option NodeId := (d.node? id).bind Node.parent

/-- The children of the node at a place. -/
def childrenOf (d : Document) (id : NodeId) : List NodeId :=
  ((d.node? id).map Node.children).getD []

/-- Whether the node at a place is whitespace. -/
def isWhitespace (d : Document) (id : NodeId) : Bool := d.isKind .whitespace id

/-- Whether the node at a place is the given punctuation mark. -/
def isPunct (d : Document) (mark : String) (id : NodeId) : Bool :=
  d.isKind .punct id && d.textOf id == mark

/-- The parent of the node at a place, if it is of a kind. A parent outside the row is of no kind, so
that it counts as none. -/
def parentOfKind? (d : Document) (kind : NodeKind) (id : NodeId) : Option NodeId :=
  (d.parent? id).filter (d.isKind kind)

end Document

end Signpost
