/-
`Proofs/Document/Preorder.lean` -- documents in source order.

A parser that lays nodes out in the order in which they start leaves a tree behind whose places are
its preorder: a parent stands before its children, siblings stand in order, and what is below a node
stands between it and its next sibling. `Preorder` says so by the links to parents alone. Its last
field is the one that is not local: if `x` hangs on `p`, then whatever stands between the two hangs
on `p` or on something after it, so that no link crosses another.

From this follow the two things that readers of such a document rely on: its links agree, and going
through the leaves meets every leaf once and by increasing place.
-/
import Signpost.Proofs.Document.Links
import Mathlib.Data.UInt

set_option autoImplicit false

namespace Signpost.Document

variable {d : Document}

/-! ## The places of a document -/

/-- All places of a document, in order. -/
def ids (d : Document) : List NodeId := (List.range d.nodes.size).map UInt32.ofNat

/-- A place holds a node when it is in the row. -/
theorem isSome_node? {id : NodeId} : (d.node? id).isSome = true ↔ id.toNat < d.nodes.size := by
  rw [node?, Option.isSome_iff_exists]
  constructor
  · rintro ⟨node, hnode⟩
    exact lt_size_of_node? hnode
  · intro hlt
    exact ⟨d.nodes[id.toNat], Array.getElem?_eq_getElem hlt⟩

/-- The listed places are those in the row, if it is not too long for them. -/
theorem mem_ids (hsize : d.nodes.size ≤ UInt32.size) {id : NodeId} :
    id ∈ d.ids ↔ id.toNat < d.nodes.size := by
  rw [ids, List.mem_map]
  constructor
  · rintro ⟨i, hi, rfl⟩
    have hlt : i < d.nodes.size := List.mem_range.mp hi
    rw [UInt32.toNat_ofNat_of_lt' (by omega)]
    exact hlt
  · intro h
    exact ⟨id.toNat, List.mem_range.mpr h, UInt32.ofNat_toNat⟩

/-- Places are listed in order. -/
theorem pairwise_ids (hsize : d.nodes.size ≤ UInt32.size) : d.ids.Pairwise (· < ·) := by
  rw [ids, List.pairwise_map]
  refine List.pairwise_lt_range.imp_of_mem ?_
  intro i j hi hj hlt
  have hi : i < d.nodes.size := List.mem_range.mp hi
  have hj : j < d.nodes.size := List.mem_range.mp hj
  rw [UInt32.lt_iff_toNat_lt, UInt32.toNat_ofNat_of_lt' (by omega),
    UInt32.toNat_ofNat_of_lt' (by omega)]
  exact hlt

/-- A node with a parent is there. -/
theorem isSome_node?_of_parent? {id p : NodeId} (h : d.parent? id = some p) :
    (d.node? id).isSome = true := by
  cases hnode : d.node? id with
  | none =>
    rw [parent?, hnode] at h
    cases h
  | some node => rfl

/-! ## Trees in preorder -/

/-- The places of the nodes are the preorder of a tree with the given parents. -/
structure Preorder (d : Document) : Prop where
  size_le : d.nodes.size ≤ UInt32.size
  root : ∃ node, d.node? rootId = some node ∧ node.parent = none
  /-- Parents come first. -/
  parent_lt : ∀ {id : NodeId}, (d.node? id).isSome = true → id ≠ rootId →
    ∃ p, d.parent? id = some p ∧ p < id
  /-- A node lists those that name it, in order. -/
  children_eq : ∀ id : NodeId, d.childrenOf id = d.ids.filter (d.parent? · = some id)
  /-- Links do not cross. -/
  nested : ∀ {x y p q : NodeId}, d.parent? x = some p → d.parent? y = some q → p < y → y ≤ x → p ≤ q

namespace Preorder

variable (h : d.Preorder)

include h

/-- A node lists just those that name it. -/
theorem mem_childrenOf {id child : NodeId} :
    child ∈ d.childrenOf id ↔ d.parent? child = some id := by
  rw [h.children_eq, List.mem_filter, mem_ids h.size_le, decide_eq_true_eq]
  refine and_iff_right_of_imp fun hparent => ?_
  exact isSome_node?.mp (isSome_node?_of_parent? hparent)

/-- Children are listed in source order. -/
theorem pairwise_childrenOf (id : NodeId) : (d.childrenOf id).Pairwise (· < ·) := by
  rw [h.children_eq]
  exact (pairwise_ids h.size_le).filter _

/-- No child is listed twice. -/
theorem nodup_childrenOf (id : NodeId) : (d.childrenOf id).Nodup :=
  (h.pairwise_childrenOf id).imp fun hlt => UInt32.ne_of_lt hlt

/-- A parent stands before its children. -/
theorem lt_of_parent? {id p : NodeId} (hparent : d.parent? id = some p) : p < id := by
  have hne : id ≠ rootId := by
    rintro rfl
    obtain ⟨root, hroot, hnone⟩ := h.root
    rw [parent?_eq hroot, hnone] at hparent
    cases hparent
  obtain ⟨q, hq, hlt⟩ := h.parent_lt (isSome_node?_of_parent? hparent) hne
  rw [hparent] at hq
  rw [Option.some.inj hq]
  exact hlt

/-- A parent that is named is there. -/
theorem isSome_parent {id p : NodeId} (hparent : d.parent? id = some p) :
    (d.node? p).isSome = true := by
  have hlt : p.toNat < id.toNat := UInt32.lt_iff_toNat_lt.mp (h.lt_of_parent? hparent)
  have hid : id.toNat < d.nodes.size := isSome_node?.mp (isSome_node?_of_parent? hparent)
  exact isSome_node?.mpr (Nat.lt_trans hlt hid)

/-- A document in preorder is accepted. -/
theorem linked : d.Linked where
  root := h.root
  back := h.mem_childrenOf.mp
  attached := by
    intro id node hnode hne
    obtain ⟨p, hp, -⟩ := h.parent_lt (by rw [hnode]; rfl) hne
    rw [parent?_eq hnode] at hp
    rw [hp]
    exact Option.some_ne_none p

/-- A node is listed once, by its parent. -/
theorem count_childrenOf {id p : NodeId} (hparent : d.parent? id = some p) (q : NodeId) :
    (d.childrenOf q).count id = if q = p then 1 else 0 := by
  by_cases hq : q = p
  · rw [if_pos hq, hq]
    exact List.count_eq_one_of_mem (h.nodup_childrenOf p) (h.mem_childrenOf.mpr hparent)
  · rw [if_neg hq, List.count_eq_zero, h.mem_childrenOf, hparent]
    exact fun heq => hq (Option.some.inj heq).symm

/-! ## What is below a node -/

omit h in
/-- The first of several levels leads to a child. -/
theorem exists_child_of_below {top low : NodeId} {levels : Nat}
    (hlow : d.Below top (levels + 1) low) :
    ∃ child ∈ d.childrenOf top, d.Below child levels low := by
  induction levels generalizing low with
  | zero =>
    cases hlow with
    | child habove hlisted =>
      cases habove
      exact ⟨low, hlisted, .here⟩
  | succ levels ih =>
    cases hlow with
    | child habove hlisted =>
      obtain ⟨child, hchild, hbelow⟩ := ih habove
      exact ⟨child, hchild, .child hbelow hlisted⟩

/-- What is below a node stands after it. -/
theorem le_of_below {top low : NodeId} {levels : Nat} (hlow : d.Below top levels low) :
    top ≤ low := by
  induction hlow with
  | here => exact UInt32.le_refl top
  | child _ hlisted ih =>
    exact UInt32.le_trans ih (UInt32.le_of_lt (h.lt_of_parent? (h.mem_childrenOf.mp hlisted)))

/-- **What is below a node stands before its next sibling.** A link that reaches across the sibling
would cross the sibling's own. -/
theorem lt_of_below_of_sibling {a b p low : NodeId} (ha : d.parent? a = some p)
    (hb : d.parent? b = some p) (hab : a < b) {levels : Nat} (hlow : d.Below a levels low) :
    low < b := by
  induction hlow with
  | here => exact hab
  | @child levels id low habove hlisted ih =>
    have hlink : d.parent? low = some id := h.mem_childrenOf.mp hlisted
    by_contra hnot
    have hle : id ≤ p := h.nested hlink hb ih (UInt32.not_lt.mp hnot)
    have hpa : p < a := h.lt_of_parent? ha
    have hai : a ≤ id := h.le_of_below habove
    rw [UInt32.lt_iff_toNat_lt] at hpa
    rw [UInt32.le_iff_toNat_le] at hle hai
    omega

/-- Every node is below the root. -/
theorem below_root {id : NodeId} (hid : (d.node? id).isSome = true) :
    ∃ levels, d.Below rootId levels id := by
  -- parents come first, so the induction is on the place
  induction hn : id.toNat using Nat.strong_induction_on generalizing id with
  | _ n ih =>
    by_cases hroot : id = rootId
    · rw [hroot]
      exact ⟨0, .here⟩
    · obtain ⟨p, hp, hlt⟩ := h.parent_lt hid hroot
      have hlt : p.toNat < n := hn ▸ UInt32.lt_iff_toNat_lt.mp hlt
      obtain ⟨levels, hbelow⟩ := ih p.toNat hlt (h.isSome_parent hp) rfl
      exact ⟨levels + 1, .child hbelow (h.mem_childrenOf.mpr hp)⟩

/-! ## The leaves in order -/

omit h in
/-- What is gathered below a node are leaves below it. -/
theorem below_of_mem_leavesBelow {room : Nat} {id low : NodeId}
    (hlow : low ∈ d.leavesBelow room id) :
    d.isLeaf low = true ∧ ∃ levels, d.Below id levels low := by
  induction room generalizing id with
  | zero => exact absurd hlow List.not_mem_nil
  | succ room ih =>
    rw [leavesBelow] at hlow
    by_cases hleaf : d.isLeaf id = true
    · rw [if_pos hleaf, List.mem_singleton] at hlow
      rw [hlow]
      exact ⟨hleaf, 0, .here⟩
    · rw [if_neg hleaf, List.mem_flatMap] at hlow
      obtain ⟨child, hlisted, hmem⟩ := hlow
      obtain ⟨hlow, levels, hbelow⟩ := ih hmem
      exact ⟨hlow, 1 + levels, Below.append (.child .here hlisted) hbelow⟩

omit h in
/-- A leaf is met if no leaf on the way down hides what is below it. -/
theorem mem_leavesBelow (hbare : ∀ id, d.isLeaf id = true → d.childrenOf id = []) {room levels : Nat}
    {id low : NodeId} (hleaf : d.isLeaf low = true) (hlow : d.Below id levels low)
    (hroom : levels < room) : low ∈ d.leavesBelow room id := by
  induction room generalizing id levels with
  | zero => omega
  | succ room ih =>
    rw [leavesBelow]
    cases levels with
    | zero =>
      cases hlow
      rw [if_pos hleaf]
      exact List.mem_singleton_self low
    | succ levels =>
      obtain ⟨child, hlisted, hbelow⟩ := exists_child_of_below hlow
      have hcomposite : d.isLeaf id ≠ true := by
        intro hid
        rw [hbare id hid] at hlisted
        exact absurd hlisted List.not_mem_nil
      rw [if_neg hcomposite, List.mem_flatMap]
      exact ⟨child, hlisted, ih hbelow (by omega)⟩

/-- They are gathered in source order: the leaves below one child come before the next child. -/
theorem pairwise_leavesBelow (room : Nat) (id : NodeId) :
    (d.leavesBelow room id).Pairwise (· < ·) := by
  induction room generalizing id with
  | zero => exact List.Pairwise.nil
  | succ room ih =>
    rw [leavesBelow]
    by_cases hleaf : d.isLeaf id = true
    · rw [if_pos hleaf]
      exact List.pairwise_singleton _ _
    · rw [if_neg hleaf, List.pairwise_flatMap]
      refine ⟨fun child _ => ih child, ?_⟩
      refine (h.pairwise_childrenOf id).imp_of_mem ?_
      intro a b ha hb hab x hx y hy
      obtain ⟨-, _, hxbelow⟩ := below_of_mem_leavesBelow hx
      obtain ⟨-, _, hybelow⟩ := below_of_mem_leavesBelow hy
      have hxb : x < b := h.lt_of_below_of_sibling (h.mem_childrenOf.mp ha)
        (h.mem_childrenOf.mp hb) hab hxbelow
      exact UInt32.lt_of_lt_of_le hxb (h.le_of_below hybelow)

/-- **The leaves in document order are the leaves by place**, each once, if no leaf has children. -/
theorem leaves_eq (hbare : ∀ id, d.isLeaf id = true → d.childrenOf id = []) :
    d.leaves = d.ids.filter d.isLeaf := by
  have hleaves : d.leaves = d.leavesBelow d.nodes.size rootId := by
    rw [leaves, h.linked.root?_eq]
  rw [hleaves]
  refine (h.pairwise_leavesBelow _ _).eq_of_mem_iff ((pairwise_ids h.size_le).filter _) fun id => ?_
  rw [List.mem_filter, mem_ids h.size_le]
  constructor
  · intro hid
    obtain ⟨hleaf, -⟩ := below_of_mem_leavesBelow hid
    refine ⟨?_, hleaf⟩
    rw [← isSome_node?]
    cases hnode : d.node? id with
    | none =>
      rw [isLeaf, hnode] at hleaf
      cases hleaf
    | some node => rfl
  · rintro ⟨hrange, hleaf⟩
    obtain ⟨levels, hbelow⟩ := h.below_root (isSome_node?.mpr hrange)
    exact mem_leavesBelow hbare hleaf hbelow (h.linked.levels_lt_size hbelow)

end Preorder

end Signpost.Document
