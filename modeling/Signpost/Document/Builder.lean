/-
`Document/Builder.lean` -- building documents.

A document grows in source order: composite nodes are opened and closed, leaves are added, and the
offset moves on by the bytes of each leaf. The quotes around a template string and the `: ` after a
config key have no node of their own and still take up room. Closing never closes the root, and
finishing closes whatever is still open.

Specification: B.7.
-/
import Signpost.Document

set_option autoImplicit false

namespace Signpost.Document

/-- A document in the making. -/
structure Builder where
  path : Path
  dialect : Dialect
  nodes : Array Node
  /-- The open nodes below the root, innermost first. -/
  stack : List NodeId
  offset : UInt32

namespace Builder

/-- A builder that holds only the root. -/
def start (path : Path) (dialect : Dialect) : Builder where
  path := path
  dialect := dialect
  nodes := #[⟨.document, "", ⟨0, 0⟩, none, []⟩]
  stack := []
  offset := 0

/-- The innermost open node. -/
def current (b : Builder) : NodeId := b.stack.head?.getD rootId

/-- The place of the next node. -/
def nextId (b : Builder) : NodeId := UInt32.ofNat b.nodes.size

/-- Adds a node as the last child of the innermost open one. -/
def push (b : Builder) (kind : NodeKind) (text : String) (span : Span) : Builder :=
  let nodes := b.nodes.modify b.current.toNat fun p =>
    { p with children := p.children ++ [b.nextId] }
  { b with nodes := nodes.push ⟨kind, text, span, some b.current, []⟩ }

/-- Starts a composite node. -/
def openNode (b : Builder) (kind : NodeKind) (label : String) : Builder :=
  { b.push kind label ⟨b.offset, b.offset⟩ with stack := b.nextId :: b.stack }

/-- Ends the innermost composite node, unless only the root is open. -/
def close (b : Builder) : Builder :=
  match b.stack with
  | [] => b
  | id :: rest =>
    { b with
      nodes := b.nodes.modify id.toNat fun n => { n with span := ⟨n.span.start, b.offset⟩ }
      stack := rest }

/-- Skips bytes that belong to no node. -/
def advance (b : Builder) (bytes : UInt32) : Builder := { b with offset := b.offset + bytes }

/-- Adds a leaf. -/
def leaf (b : Builder) (kind : NodeKind) (text : String) : Builder :=
  let stop := b.offset + UInt32.ofNat text.utf8ByteSize
  { b.push kind text ⟨b.offset, stop⟩ with offset := stop }

/-- Adds a quoted string; the leaf holds its contents. -/
def string (b : Builder) (contents : String) : Builder :=
  ((b.advance 1).leaf .stringLiteral contents).advance 1

/-- Opens a pair and adds its key. -/
def keyValue (b : Builder) (key : String) : Builder :=
  ((b.openNode .keyValue key).leaf .key key).advance 2

/-- Adds a pair of a key and a plain value. -/
def scalarEntry (b : Builder) (key raw : String) : Builder :=
  (((b.keyValue key).leaf .scalar raw).advance 1).close

/-- One step of building. -/
inductive Step where
  | open (kind : NodeKind) (label : String)
  | leaf (kind : NodeKind) (text : String)
  | close
  | advance (bytes : UInt32)
  | ident (text : String)
  | punct (text : String)
  | space
  | string (contents : String)
  | keyValue (key : String)
  | scalar (raw : String)
  | scalarEntry (key raw : String)
  deriving DecidableEq, Repr

/-- Takes one step. -/
def step (b : Builder) : Step → Builder
  | .open kind label => b.openNode kind label
  | .leaf kind text => b.leaf kind text
  | .close => b.close
  | .advance bytes => b.advance bytes
  | .ident text => b.leaf .identifier text
  | .punct text => b.leaf .punct text
  | .space => b.leaf .whitespace " "
  | .string contents => b.string contents
  | .keyValue key => b.keyValue key
  | .scalar raw => b.leaf .scalar raw
  | .scalarEntry key raw => b.scalarEntry key raw

/-- Closes every open node below the root: one `close` for each. -/
def closeAll (b : Builder) : Builder := b.stack.foldl (fun b _ => b.close) b

/-- The finished document. -/
def finish (b : Builder) : Document :=
  let b := b.closeAll
  ⟨b.path, b.dialect, b.nodes.modify 0 fun root => { root with span := ⟨0, b.offset⟩ }⟩

end Builder

/-- The document that a sequence of steps builds. -/
def build (path : Path) (dialect : Dialect) (steps : List Builder.Step) : Document :=
  (steps.foldl Builder.step (Builder.start path dialect)).finish

end Signpost.Document
