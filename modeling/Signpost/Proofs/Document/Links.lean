/-
`Proofs/Document/Links.lean` -- documents with agreeing links.

The check on a document looks at one node at a time, and it never looks for a circle. That there is
none below the root is a matter of counting. Every listed child names the node that lists it as its
parent, so whoever is reached from the root by going down has one way back up, and that way ends at
the root because the root has no parent. A way that ends visits no node twice; it is shorter than
the row of nodes is long. Two ways down to the same node are then equally long, and a node below
itself would have two ways of different lengths.

Both walks that go down, the one to the leaf under a caret and the one through all leaves, are
bounded by the number of nodes in this library. `DescentEnds` and `Gathers` are the same walks
without a bound: a derivation is a run that comes to its end. The bounded walks are such runs on
every accepted document, whatever is listed twice or hangs loose elsewhere in the row.
-/
import Signpost.Document.Links
import Signpost.Document.Navigation
import Signpost.Proofs.Collection
import Mathlib.Data.List.Nodup
import Mathlib.Data.List.Perm.Subperm
import Mathlib.Data.Option.Basic

set_option autoImplicit false

namespace Signpost.Document

/-! ## What the check says -/

/-- The links of a document agree: the root has no parent, every listed child names the node that
lists it, and every other node names some parent. -/
structure Linked (d : Document) : Prop where
  root : ∃ node, d.node? rootId = some node ∧ node.parent = none
  back : ∀ {id child : NodeId}, child ∈ d.childrenOf id → d.parent? child = some id
  attached : ∀ {id : NodeId} {node : Node}, d.node? id = some node → id ≠ rootId →
    node.parent ≠ none

variable {d : Document}

/-- A node stands in the row. -/
theorem lt_size_of_node? {id : NodeId} {node : Node} (h : d.node? id = some node) :
    id.toNat < d.nodes.size :=
  (Array.getElem?_eq_some_iff.mp h).1

/-- The children of a node that is there are those it lists. -/
theorem childrenOf_eq {id : NodeId} {node : Node} (h : d.node? id = some node) :
    d.childrenOf id = node.children := by
  rw [childrenOf, h]
  rfl

/-- The parent of a node that is there is the one it names. -/
theorem parent?_eq {id : NodeId} {node : Node} (h : d.node? id = some node) :
    d.parent? id = node.parent := by
  rw [parent?, h]
  rfl

/-- Only a node that is there lists children. -/
theorem exists_node?_of_mem_childrenOf {id child : NodeId} (h : child ∈ d.childrenOf id) :
    ∃ node, d.node? id = some node ∧ child ∈ node.children := by
  cases hnode : d.node? id with
  | none =>
    rw [childrenOf, hnode] at h
    exact absurd h List.not_mem_nil
  | some node => exact ⟨node, rfl, childrenOf_eq hnode ▸ h⟩

/-- One child passes the check when it exists and names the node. -/
theorem childDefect?_eq_none_iff {i : Nat} {child : NodeId} :
    d.childDefect? i child = none ↔ d.parent? child = some (UInt32.ofNat i) := by
  rw [childDefect?, parent?]
  cases d.node? child with
  | none => simp
  | some node => simp

/-- A node is in order when each child that it lists names it, and when it has a parent or is the
root. -/
theorem nodeDefect?_eq_none_iff {i : Nat} {node : Node} :
    d.nodeDefect? i node = none ↔
      (∀ child ∈ node.children, d.parent? child = some (UInt32.ofNat i))
        ∧ (0 < i → node.parent ≠ none) := by
  rw [nodeDefect?, Option.orElse_eq_none, List.findSome?_eq_none_iff]
  simp only [childDefect?_eq_none_iff]
  refine and_congr_right fun _ => ?_
  by_cases hdetached : 0 < i ∧ node.parent = none
  · rw [if_pos hdetached]
    simp [hdetached.1, hdetached.2]
  · rw [if_neg hdetached]
    simpa using hdetached

/-- All places but the first are those of other nodes than the root. -/
theorem ne_rootId_iff {id : NodeId} : id ≠ rootId ↔ 0 < id.toNat := by
  rw [ne_eq, ← UInt32.toNat_inj]
  show ¬ id.toNat = 0 ↔ 0 < id.toNat
  omega

/-- The check looks at the root and then at every position of the row. -/
theorem linkDefect?_eq_none_iff_forall :
    d.linkDefect? = none ↔
      (∃ root, d.node? rootId = some root ∧ root.parent = none)
        ∧ ∀ entry ∈ d.nodes.toList.zipIdx, d.nodeDefect? entry.2 entry.1 = none := by
  rw [linkDefect?]
  cases hroot : d.node? rootId with
  | none => simp
  | some root =>
    cases hparent : root.parent with
    | none => simp [hparent]
    | some p => simp [hparent]

/-- Every accepted document is linked, also one with more nodes than places: a node that has no place
is never asked for. -/
theorem linked_of_linkDefect? (h : d.linkDefect? = none) : d.Linked := by
  obtain ⟨hroot, hrow⟩ := linkDefect?_eq_none_iff_forall.mp h
  have hplace : ∀ {id : NodeId} {node : Node}, d.node? id = some node →
      (∀ child ∈ node.children, d.parent? child = some id)
        ∧ (id ≠ rootId → node.parent ≠ none) := by
    intro id node hnode
    have hmem : (node, id.toNat) ∈ d.nodes.toList.zipIdx := by
      rw [List.mem_zipIdx_iff_getElem?, Array.getElem?_toList]
      exact hnode
    have hnone := nodeDefect?_eq_none_iff.mp (hrow _ hmem)
    rw [UInt32.ofNat_toNat] at hnone
    rw [ne_rootId_iff]
    exact hnone
  refine ⟨hroot, ?_, ?_⟩
  · intro id child hchild
    obtain ⟨node, hnode, hmem⟩ := exists_node?_of_mem_childrenOf hchild
    exact (hplace hnode).1 child hmem
  · intro id node hnode
    exact (hplace hnode).2

/-- **The check, characterised.** Positions in the row and the places that nodes name are the same
thing as long as there are no more nodes than places. -/
theorem linkDefect?_eq_none_iff (hsize : d.nodes.size ≤ UInt32.size) :
    d.linkDefect? = none ↔ d.Linked := by
  refine ⟨linked_of_linkDefect?, fun h => ?_⟩
  refine linkDefect?_eq_none_iff_forall.mpr ⟨h.root, ?_⟩
  rintro ⟨node, i⟩ hmem
  rw [List.mem_zipIdx_iff_getElem?, Array.getElem?_toList] at hmem
  have hlt : i < d.nodes.size := (Array.getElem?_eq_some_iff.mp hmem).1
  have hi : (UInt32.ofNat i).toNat = i := UInt32.toNat_ofNat_of_lt' (by omega)
  have hnode : d.node? (UInt32.ofNat i) = some node := by
    rw [node?, hi]
    exact hmem
  refine nodeDefect?_eq_none_iff.mpr ⟨?_, ?_⟩
  · intro child hchild
    refine h.back ?_
    rw [childrenOf_eq hnode]
    exact hchild
  · intro hpos
    exact h.attached hnode (ne_rootId_iff.mpr (by omega))

/-- An accepted document has a root. -/
theorem Linked.root?_eq (h : d.Linked) : d.root? = some rootId := by
  obtain ⟨root, hnode, -⟩ := h.root
  rw [root?, hnode]
  rfl

/-! ## Ways down and the way up -/

/-- The node at a place stands so many levels below another one. -/
inductive Below (d : Document) (top : NodeId) : Nat → NodeId → Prop
  | here : Below d top 0 top
  | child {levels : Nat} {id child : NodeId} (above : Below d top levels id)
    (listed : child ∈ d.childrenOf id) : Below d top (levels + 1) child

/-- Levels below a node below another add up. -/
theorem Below.append {top id low : NodeId} {m n : Nat} (h : d.Below top m id)
    (hlow : d.Below id n low) : d.Below top (m + n) low := by
  induction hlow with
  | here => exact h
  | child _ hlisted ih => exact .child ih hlisted

/-- The way up from a node: the links to parents lead through the given nodes to the root and no
further, every node on the way exists, and there are fewer steps than nodes. -/
structure WayUp (d : Document) (id : NodeId) (way : List NodeId) : Prop where
  full : FullChain d.parent? id way
  getLast : (id :: way).getLast? = some rootId
  inRange : ∀ a ∈ id :: way, (d.node? a).isSome = true
  short : way.length < d.nodes.size

/-- Nodes that are all different and in the row are no more than the row holds. -/
theorem length_le_size {ids : List NodeId} (hnodup : ids.Nodup)
    (hrange : ∀ a ∈ ids, (d.node? a).isSome = true) : ids.length ≤ d.nodes.size := by
  have hsubset : ids.map UInt32.toNat ⊆ List.range d.nodes.size := by
    intro i hi
    obtain ⟨a, ha, rfl⟩ := List.mem_map.mp hi
    obtain ⟨node, hnode⟩ := Option.isSome_iff_exists.mp (hrange a ha)
    exact List.mem_range.mpr (lt_size_of_node? hnode)
  have hmap : (ids.map UInt32.toNat).Nodup :=
    hnodup.map fun _ _ h => UInt32.toNat_inj.mp h
  have hlength := (hmap.subperm hsubset).length_le
  rw [List.length_map, List.length_range] at hlength
  exact hlength

namespace Linked

/-- **The way up is the way down reversed.** Each step down is undone by the link to the parent. -/
theorem exists_fullChain (h : d.Linked) {levels : Nat} {id : NodeId}
    (hid : d.Below rootId levels id) :
    ∃ way, way.length = levels ∧ FullChain d.parent? id way
      ∧ (id :: way).getLast? = some rootId ∧ ∀ a ∈ id :: way, (d.node? a).isSome = true := by
  induction hid with
  | here =>
    obtain ⟨root, hroot, hparent⟩ := h.root
    refine ⟨[], rfl, .stop ?_, rfl, ?_⟩
    · rw [parent?_eq hroot, hparent]
    · intro a ha
      rw [List.mem_singleton.mp ha, hroot]
      rfl
  | @child levels id child _ hlisted ih =>
    obtain ⟨way, hlength, hfull, hlast, hrange⟩ := ih
    have hback : d.parent? child = some id := h.back hlisted
    refine ⟨id :: way, ?_, .step hback hfull, ?_, ?_⟩
    · rw [List.length_cons, hlength]
    · rw [List.getLast?_cons_cons]
      exact hlast
    · intro a ha
      rcases List.mem_cons.mp ha with rfl | ha
      · -- a node that names a parent is there
        cases hnode : d.node? a with
        | none =>
          rw [parent?, hnode] at hback
          cases hback
        | some node => rfl
      · exact hrange a ha

/-- The ancestors of a node below the root are its way up, one for each level. -/
theorem wayUp_ancestors (h : d.Linked) {levels : Nat} {id : NodeId}
    (hid : d.Below rootId levels id) :
    (d.ancestors id).length = levels ∧ d.WayUp id (d.ancestors id) := by
  obtain ⟨way, hlength, hfull, hlast, hrange⟩ := h.exists_fullChain hid
  have hshort : (id :: way).length ≤ d.nodes.size := length_le_size hfull.nodup hrange
  rw [List.length_cons] at hshort
  have hancestors : d.ancestors id = way := hfull.chain_eq (by omega)
  rw [hancestors]
  exact ⟨hlength, hfull, hlast, hrange, by omega⟩

/-- **No node lies deeper than there are nodes.** The way up from it passes each level once. -/
theorem levels_lt_size (h : d.Linked) {levels : Nat} {id : NodeId}
    (hid : d.Below rootId levels id) : levels < d.nodes.size := by
  obtain ⟨hlength, hway⟩ := h.wayUp_ancestors hid
  rw [← hlength]
  exact hway.short

/-- No node below the root is properly below itself. -/
theorem not_below_self (h : d.Linked) {levels : Nat} {id : NodeId}
    (hid : d.Below rootId levels id) (more : Nat) : ¬ d.Below id (more + 1) id := by
  intro hself
  have hlength := (h.wayUp_ancestors hid).1
  have hlonger := (h.wayUp_ancestors (hid.append hself)).1
  omega

end Linked

/-! ## Walks without a bound -/

/-- The first child of a node around an offset. -/
def childAround? (d : Document) (offset : UInt32) (id : NodeId) : Option NodeId :=
  (d.childrenOf id).find? fun child => (d.spanOf child).contains offset

/-- Going to the first child around an offset ends at `last` after so many steps. -/
inductive DescentEnds (d : Document) (offset : UInt32) : Nat → NodeId → NodeId → Prop
  | stop {id : NodeId} (h : d.childAround? offset id = none) : DescentEnds d offset 0 id id
  | step {steps : Nat} {id child last : NodeId} (h : d.childAround? offset id = some child)
    (rest : DescentEnds d offset steps child last) : DescentEnds d offset (steps + 1) id last

mutual

/-- Gathering the leaves at and below a node ends with the given list and has at most so many nodes
at hand at a time, one for each level it is down. -/
inductive Gathers (d : Document) : Nat → NodeId → List NodeId → Prop
  | leaf {room : Nat} {id : NodeId} (h : d.isLeaf id = true) : Gathers d (room + 1) id [id]
  | parts {room : Nat} {id : NodeId} {found : List NodeId} (h : d.isLeaf id = false)
    (each : GathersEach d room (d.childrenOf id) found) : Gathers d (room + 1) id found

/-- The same for nodes that are taken one after the other. -/
inductive GathersEach (d : Document) : Nat → List NodeId → List NodeId → Prop
  | nil {room : Nat} : GathersEach d room [] []
  | cons {room : Nat} {id : NodeId} {ids found more : List NodeId} (first : Gathers d room id found)
    (rest : GathersEach d room ids more) : GathersEach d room (id :: ids) (found ++ more)

end

/-- Gathering below several nodes is gathering below each. -/
theorem GathersEach.of_forall {room : Nat} {gather : NodeId → List NodeId} {ids : List NodeId}
    (h : ∀ id ∈ ids, d.Gathers room id (gather id)) :
    d.GathersEach room ids (ids.flatMap gather) := by
  induction ids with
  | nil => exact .nil
  | cons id ids ih =>
    rw [List.flatMap_cons]
    exact .cons (h id List.mem_cons_self) (ih fun id hid => h id (List.mem_cons_of_mem _ hid))

namespace Linked

/-- The bounded descent from a node below the root is a whole descent, if the bound and the level of
the node add up to the number of nodes. -/
theorem descentEnds_descend (h : d.Linked) (offset : UInt32) {room levels : Nat} {id : NodeId}
    (hid : d.Below rootId levels id) (hroom : d.nodes.size ≤ levels + room) :
    ∃ steps, levels + steps < d.nodes.size
      ∧ d.DescentEnds offset steps id (d.descend offset room id) := by
  have hlevels := h.levels_lt_size hid
  induction room generalizing levels id with
  | zero => omega
  | succ room ih =>
    rw [descend]
    cases hchild : d.childAround? offset id with
    | none =>
      rw [childAround?] at hchild
      rw [hchild]
      exact ⟨0, hlevels, .stop hchild⟩
    | some child =>
      have hbelow : d.Below rootId (levels + 1) child :=
        .child hid (List.mem_of_find?_eq_some hchild)
      obtain ⟨steps, hsteps, hends⟩ := ih hbelow (by omega) (h.levels_lt_size hbelow)
      rw [childAround?] at hchild
      rw [hchild]
      exact ⟨steps + 1, by omega, .step hchild hends⟩

/-- The same for gathering leaves. -/
theorem gathers_leavesBelow (h : d.Linked) {room levels : Nat} {id : NodeId}
    (hid : d.Below rootId levels id) (hroom : d.nodes.size ≤ levels + room) :
    d.Gathers room id (d.leavesBelow room id) := by
  have hlevels := h.levels_lt_size hid
  induction room generalizing levels id with
  | zero => omega
  | succ room ih =>
    rw [leavesBelow]
    cases hleaf : d.isLeaf id with
    | true => exact .leaf hleaf
    | false =>
      rw [if_neg Bool.false_ne_true]
      refine .parts hleaf (.of_forall ?_)
      intro child hlisted
      have hbelow : d.Below rootId (levels + 1) child := .child hid hlisted
      exact ih hbelow (by omega) (h.levels_lt_size hbelow)

end Linked

/-- **Walks through an accepted document end.** Every node that is reached from the root has a way up
that ends there in fewer steps than there are nodes, and it is not below itself. The descent to the
leaf under a caret and the gathering of all leaves end by themselves, less deep than there are
nodes, with what the library answers. -/
theorem accepted_walks_end (d : Document) (hsize : d.nodes.size < UInt32.size)
    (haccepted : d.linkDefect? = none) :
    (∀ (levels : Nat) (id : NodeId), d.Below rootId levels id →
      levels < d.nodes.size ∧ d.WayUp id (d.ancestors id) ∧ ∀ more, ¬ d.Below id (more + 1) id)
    ∧ (∀ offset : UInt32, ∃ steps last, steps < d.nodes.size
      ∧ d.DescentEnds offset steps rootId last
      ∧ d.tokenAt? offset = if d.isLeaf last then some last else none)
    ∧ d.Gathers d.nodes.size rootId d.leaves := by
  have hlinked : d.Linked := (linkDefect?_eq_none_iff (Nat.le_of_lt hsize)).mp haccepted
  have hroot : d.root? = some rootId := by
    obtain ⟨root, hnode, -⟩ := hlinked.root
    rw [root?, hnode]
    rfl
  refine ⟨?_, ?_, ?_⟩
  · intro levels id hid
    exact ⟨hlinked.levels_lt_size hid, (hlinked.wayUp_ancestors hid).2, hlinked.not_below_self hid⟩
  · intro offset
    obtain ⟨steps, hsteps, hends⟩ := hlinked.descentEnds_descend offset .here (Nat.le_add_left _ 0)
    refine ⟨steps, _, by omega, hends, ?_⟩
    rw [tokenAt?, hroot]
    rfl
  · rw [leaves, hroot]
    exact hlinked.gathers_leavesBelow .here (Nat.le_add_left _ 0)

/-- An accepted document whose root lists a key twice and in which two nodes out of reach list each
other: the key is found twice, and the circle is never entered. -/
theorem accepted_walks_end_loose :
    let d : Document := ⟨⟨"services.yaml"⟩, .config,
      #[⟨.document, "", ⟨0, 2⟩, none, [1, 1]⟩, ⟨.key, "id", ⟨0, 2⟩, some 0, []⟩,
        ⟨.mapping, "", ⟨0, 2⟩, some 3, [3]⟩, ⟨.mapping, "", ⟨0, 2⟩, some 2, [2]⟩]⟩
    d.linkDefect? = none ∧ d.Below 2 2 2 ∧ d.leaves = [1, 1] ∧ d.Gathers 4 rootId [1, 1]
      ∧ ∃ steps last, steps < 4 ∧ d.DescentEnds 1 steps rootId last
        ∧ d.tokenAt? 1 = if d.isLeaf last then some last else none := by
  intro d
  have haccepted : d.linkDefect? = none := by decide +kernel
  have hfirst : 3 ∈ d.childrenOf 2 := by decide +kernel
  have hsecond : 2 ∈ d.childrenOf 3 := by decide +kernel
  have hleaves : d.leaves = [1, 1] := by decide +kernel
  obtain ⟨-, hdescents, hgathers⟩ := accepted_walks_end d (by decide) haccepted
  rw [hleaves] at hgathers
  exact ⟨haccepted, .child (.child .here hfirst) hsecond, hleaves, hgathers, hdescents 1⟩

end Signpost.Document
