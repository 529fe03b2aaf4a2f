/-
`Document/Navigation.lean` -- moving about in a document.

From a node one can go up to its ancestors, sideways to its siblings, and from a caret offset down
to a leaf. Every walk is bounded by the number of nodes it could meet at most: siblings by the
length of the parent's list, ancestors and descents by the number of nodes. In a document whose
links agree no walk reaches its bound before it ends. Where links do not agree, a walk may have no
end but its bound: what the walks answer there is what they have met up to it.

Specification: 3 (tokens) and B.7.
-/
import Signpost.Document
import Signpost.Collection
import Signpost.Failure
import Signpost.Text.Quoted

set_option autoImplicit false

namespace Signpost.Document

/-! ## Siblings -/

/-- The children of a node's parent. -/
def siblingsOf (d : Document) (id : NodeId) : List NodeId :=
  ((d.parent? id).map d.childrenOf).getD []

/-- The sibling just before a node. -/
def prevSibling? (d : Document) (id : NodeId) : Option NodeId :=
  match (d.siblingsOf id).idxOf? id with
  | some (i + 1) => (d.siblingsOf id)[i]?
  | _ => none

/-- The sibling just after a node. -/
def nextSibling? (d : Document) (id : NodeId) : Option NodeId :=
  match (d.siblingsOf id).idxOf? id with
  | some i => (d.siblingsOf id)[i + 1]?
  | none => none

/-- The siblings before a node, nearest first. Where links are not mutual, or a list names a node
twice, going back may have no end of its own; the length of the list, which the walk never meets
otherwise, ends it there. -/
def preceding (d : Document) (id : NodeId) : List NodeId :=
  chain d.prevSibling? (d.siblingsOf id).length id

/-- The siblings after a node, nearest first; bounded as `preceding` is. -/
def following (d : Document) (id : NodeId) : List NodeId :=
  chain d.nextSibling? (d.siblingsOf id).length id

/-- The nearest sibling before a node that is not whitespace. A walk over whitespace that has no end
of its own, which takes links that are not mutual, finds none. -/
def prevSignificant? (d : Document) (id : NodeId) : Option NodeId :=
  chainFind? d.prevSibling? (!d.isWhitespace ·) (d.siblingsOf id).length id

/-- The nearest sibling after a node that is not whitespace; as in `prevSignificant?`, a walk without
an end of its own finds none. -/
def nextSignificant? (d : Document) (id : NodeId) : Option NodeId :=
  chainFind? d.nextSibling? (!d.isWhitespace ·) (d.siblingsOf id).length id

theorem prevSignificant?_eq (d : Document) (id : NodeId) :
    d.prevSignificant? id = (d.preceding id).find? (!d.isWhitespace ·) :=
  chainFind?_eq _ _ _ _

theorem nextSignificant?_eq (d : Document) (id : NodeId) :
    d.nextSignificant? id = (d.following id).find? (!d.isWhitespace ·) :=
  chainFind?_eq _ _ _ _

/-! ## Up and down -/

/-- The parent of a node, its parent, and so on. Parents that go round in a circle are cut off at the
number of nodes. -/
def ancestors (d : Document) (id : NodeId) : List NodeId := chain d.parent? d.nodes.size id

/-- The first child of a node that is not whitespace. -/
def firstSignificantChild? (d : Document) (id : NodeId) : Option NodeId :=
  (d.childrenOf id).find? (!d.isWhitespace ·)

/-- The leaves at and below a node in document order, at most `bound - 1` levels down. -/
def leavesBelow (d : Document) : Nat → NodeId → List NodeId
  | 0, _ => []
  | bound + 1, id =>
    if d.isLeaf id then [id] else (d.childrenOf id).flatMap (d.leavesBelow bound)

/-- The leaves in document order. -/
def leaves (d : Document) : List NodeId :=
  match d.root? with
  | some root => d.leavesBelow d.nodes.size root
  | none => []

/-- The first leaf of a kind with the given text. -/
def find? (d : Document) (kind : NodeKind) (text : String) : Option NodeId :=
  d.leaves.find? fun id => d.isKind kind id && d.textOf id == text

/-- The node reached by going to the first child around an offset, again and again. -/
def descend (d : Document) (offset : UInt32) : Nat → NodeId → NodeId
  | 0, id => id
  | bound + 1, id =>
    match (d.childrenOf id).find? fun child => (d.spanOf child).contains offset with
    | none => id
    | some child => d.descend offset bound child

/-- The leaf under a caret. -/
def tokenAt? (d : Document) (offset : UInt32) : Option NodeId :=
  d.root?.bind fun root =>
    let id := d.descend offset d.nodes.size root
    if d.isLeaf id then some id else none

/-- The leaf under a caret, for those who cannot do without one. -/
def requireTokenAt (d : Document) (offset : UInt32) : Except Failure NodeId :=
  match d.tokenAt? offset with
  | some id => .ok id
  | none => .error (.tokenNotFound d.path offset)

/-! ## Display -/

/-- The name of a kind as it is shown. -/
def kindLabel : NodeKind → String
  | .document => "Document"
  | .mapping => "Mapping"
  | .sequence => "Sequence"
  | .keyValue => "KeyValue"
  | .key => "Key"
  | .scalar => "Scalar"
  | .printBlock => "PrintBlock"
  | .tagBlock => "TagBlock"
  | .identifier => "Identifier"
  | .stringLiteral => "StringLiteral"
  | .punct => "Punct"
  | .text => "Text"
  | .whitespace => "Whitespace"

/-- The line that shows a node. -/
def displayNode (d : Document) (id : NodeId) : String :=
  "Token \x7b id: " ++ id.toNat.repr ++ ", kind: " ++ ((d.node? id).map (kindLabel ·.kind)).getD ""
    ++ ", text: " ++ Text.quoted (d.textOf id) ++ " \x7d"

end Signpost.Document
