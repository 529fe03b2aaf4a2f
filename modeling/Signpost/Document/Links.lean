/-
`Document/Links.lean` -- agreement of links.

A document from outside may link its nodes in any way. It is accepted when the root has no parent,
every other node has one, and every child that a node lists exists and names that node as its
parent. The check looks at each node on its own; that no chain of children can come back to where it
was follows from it.

Specification: B.7.
-/
import Signpost.Document

set_option autoImplicit false

namespace Signpost.Document

/-- What is wrong with the links of a document. -/
inductive LinkDefect where
  | noNodes
  | rootHasParent
  | childOutOfRange (node : Nat) (child : NodeId)
  | noBackLink (child : NodeId) (node : Nat)
  | detached (node : Nat)
  deriving DecidableEq, Repr

/-- The wording of a defect. -/
def LinkDefect.message : LinkDefect → String
  | .noNodes => "document has no nodes"
  | .rootHasParent => "root node must not have a parent"
  | .childOutOfRange node child =>
    "node " ++ node.repr ++ " has out-of-range child " ++ child.toNat.repr
  | .noBackLink child node =>
    "node " ++ child.toNat.repr ++ " does not point back to parent " ++ node.repr
  | .detached node => "node " ++ node.repr ++ " is detached"

/-- What is wrong with one child that the node at place `i` lists. -/
def childDefect? (d : Document) (i : Nat) (child : NodeId) : Option LinkDefect :=
  match d.node? child with
  | none => some (.childOutOfRange i child)
  | some c => if c.parent = some (UInt32.ofNat i) then none else some (.noBackLink child i)

/-- What is wrong with the node at place `i`: its children are looked at first. -/
def nodeDefect? (d : Document) (i : Nat) (node : Node) : Option LinkDefect :=
  node.children.findSome? (d.childDefect? i)
    <|> (if 0 < i ∧ node.parent = none then some (.detached i) else none)

/-- The first defect of a document. -/
def linkDefect? (d : Document) : Option LinkDefect :=
  match d.node? rootId with
  | none => some .noNodes
  | some root =>
    if root.parent.isSome then some .rootHasParent
    else d.nodes.toList.zipIdx.findSome? fun (node, i) => d.nodeDefect? i node

end Signpost.Document
