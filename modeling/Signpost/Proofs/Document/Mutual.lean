/-
`Proofs/Document/Mutual.lean` -- links in both directions.

A document is read along both of its kinds of links: down the lists of children, and up and sideways
from a node to its parent. The check goes one way only. It takes every listed child and asks for its
parent, so a listed child is in the row, names its lister and has no other one. It never takes a
node and asks its parent for it. What links in both directions need beyond the check comes down to
three things, `Gapless`, and each of them can fail in an accepted document:

* a list names a child twice;
* a node is listed nowhere, whether the parent that it names is in the row or not;
* nodes list each other in a circle.

The three are enough for `Mutual`, which is what readers of the links would like to rely on. The one
step that is not local is that every node can be reached from the root: the way up through the
listers cannot turn in a circle, and there are finitely many places, so it ends, and only the root
has no lister.
-/
import Signpost.Proofs.Document.Builder
import Mathlib.Data.Fintype.EquivFin
import Mathlib.Order.WellFounded

set_option autoImplicit false

namespace Signpost.Document

variable {d : Document}

/-- A node stands properly above another one. -/
def Above (d : Document) (top low : NodeId) : Prop := ∃ more, d.Below top (more + 1) low

/-- The links of a document agree in both directions and hold it together. -/
structure Mutual (d : Document) : Prop where
  /-- A node other than the root names a parent in the row, which lists it once and alone. -/
  listed : ∀ {id : NodeId}, (d.node? id).isSome = true → id ≠ rootId →
    ∃ p, d.parent? id = some p ∧ (d.node? p).isSome = true ∧ (d.childrenOf p).count id = 1
      ∧ ∀ q, q ≠ p → id ∉ d.childrenOf q
  /-- A listed child names its lister. -/
  back : ∀ {id child : NodeId}, child ∈ d.childrenOf id → d.parent? child = some id
  /-- Every node is reached from the root; in particular it has a place. -/
  reached : ∀ i < d.nodes.size, ∃ (id : NodeId) (levels : Nat), id.toNat = i
    ∧ d.Below rootId levels id

/-- What the check does not look at: no list repeats a child, every node but the root is listed, and
no node is below itself. -/
structure Gapless (d : Document) : Prop where
  once : ∀ id : NodeId, (d.childrenOf id).Nodup
  listed : ∀ i, 0 < i → i < d.nodes.size → ∃ id lister : NodeId, id.toNat = i
    ∧ id ∈ d.childrenOf lister
  acyclic : ∀ id : NodeId, ¬ d.Above id id

namespace Linked

variable (h : d.Linked)

include h

/-- A listed child is in the row, names its lister, and is listed by nobody else. -/
theorem of_mem_childrenOf {id child : NodeId} (hlisted : child ∈ d.childrenOf id) :
    (d.node? child).isSome = true ∧ d.parent? child = some id
      ∧ ∀ q, child ∈ d.childrenOf q → q = id := by
  have hparent : d.parent? child = some id := h.back hlisted
  refine ⟨isSome_node?_of_parent? hparent, hparent, ?_⟩
  intro q hq
  have hother : d.parent? child = some q := h.back hq
  rw [hparent] at hother
  exact (Option.some.inj hother).symm

theorem ne_rootId_of_mem_childrenOf {id child : NodeId} (hlisted : child ∈ d.childrenOf id) :
    child ≠ rootId := by
  rintro rfl
  obtain ⟨root, hroot, hnone⟩ := h.root
  have hparent : d.parent? rootId = some id := h.back hlisted
  rw [parent?_eq hroot, hnone] at hparent
  cases hparent

end Linked

namespace Gapless

variable (h : d.Gapless)

include h

theorem exists_lister {id : NodeId} (hid : (d.node? id).isSome = true) (hne : id ≠ rootId) :
    ∃ lister, id ∈ d.childrenOf lister := by
  obtain ⟨same, lister, hsame, hlisted⟩ :=
    h.listed id.toNat (ne_rootId_iff.mp hne) (isSome_node?.mp hid)
  rw [UInt32.toNat_inj.mp hsame] at hlisted
  exact ⟨lister, hlisted⟩

/-- Being above is a strict order, and there are finitely many places. -/
theorem wellFounded_above : WellFounded d.Above := by
  have hfinite : Finite NodeId := Finite.of_injective UInt32.toFin fun _ _ => UInt32.toFin_inj.mp
  have htrans : IsTrans NodeId d.Above := by
    refine ⟨?_⟩
    rintro a b c ⟨m, hab⟩ ⟨n, hbc⟩
    refine ⟨m + 1 + n, ?_⟩
    exact hab.append hbc
  have hirrefl : Std.Irrefl d.Above := ⟨h.acyclic⟩
  exact Finite.wellFounded_of_trans_of_irrefl d.Above

/-- **Every node can be reached.** The induction goes from a lister to what it lists. -/
theorem exists_below_root {id : NodeId} (hid : (d.node? id).isSome = true) :
    ∃ levels, d.Below rootId levels id := by
  induction id using h.wellFounded_above.induction with
  | _ id ih =>
    by_cases hroot : id = rootId
    · rw [hroot]
      exact ⟨0, .here⟩
    · obtain ⟨lister, hlisted⟩ := h.exists_lister hid hroot
      obtain ⟨node, hnode, -⟩ := exists_node?_of_mem_childrenOf hlisted
      obtain ⟨levels, hbelow⟩ := ih lister ⟨0, .child .here hlisted⟩ (by rw [hnode]; rfl)
      exact ⟨levels + 1, .child hbelow hlisted⟩

/-- Without gaps, the links of a document that passes the check are mutual. -/
theorem toMutual (hlinked : d.Linked) : d.Mutual where
  listed := by
    intro id hid hne
    obtain ⟨lister, hlisted⟩ := h.exists_lister hid hne
    obtain ⟨node, hnode, -⟩ := exists_node?_of_mem_childrenOf hlisted
    obtain ⟨-, hparent, honly⟩ := hlinked.of_mem_childrenOf hlisted
    refine ⟨lister, hparent, by rw [hnode]; rfl, ?_, ?_⟩
    · exact List.count_eq_one_of_mem (h.once lister) hlisted
    · intro q hq hother
      exact hq (honly q hother)
  back := hlinked.back
  reached := by
    intro i hi
    by_cases hzero : i = 0
    · exact ⟨rootId, 0, by rw [hzero]; rfl, .here⟩
    · obtain ⟨id, lister, rfl, hlisted⟩ := h.listed i (by omega) hi
      obtain ⟨levels, hbelow⟩ := h.exists_below_root (hlinked.of_mem_childrenOf hlisted).1
      exact ⟨id, levels, rfl, hbelow⟩

end Gapless

/-- Mutual links leave no gap. -/
theorem Mutual.gapless (h : d.Mutual) (hlinked : d.Linked) : d.Gapless where
  once := by
    intro id
    rw [List.nodup_iff_count_le_one]
    intro child
    by_cases hlisted : child ∈ d.childrenOf id
    · obtain ⟨hchild, hparent, -⟩ := hlinked.of_mem_childrenOf hlisted
      obtain ⟨p, hp, -, hcount, -⟩ :=
        h.listed hchild (hlinked.ne_rootId_of_mem_childrenOf hlisted)
      rw [hparent] at hp
      rw [Option.some.inj hp, hcount]
    · rw [List.count_eq_zero_of_not_mem hlisted]
      exact Nat.zero_le 1
  listed := by
    intro i hpos hi
    obtain ⟨id, levels, rfl, hbelow⟩ := h.reached i hi
    cases hbelow with
    | here => exact absurd hpos (Nat.lt_irrefl 0)
    | child _ hlisted => exact ⟨id, _, rfl, hlisted⟩
  acyclic := by
    rintro id ⟨more, hself⟩
    -- whoever is below something is in the row, so it is reached, and then it is not below itself
    have hid : (d.node? id).isSome = true := by
      cases hself with
      | child _ hlisted => exact (hlinked.of_mem_childrenOf hlisted).1
    obtain ⟨same, levels, hsame, hbelow⟩ := h.reached id.toNat (isSome_node?.mp hid)
    rw [UInt32.toNat_inj.mp hsame] at hbelow
    exact hlinked.not_below_self hbelow more hself

/-- A document in source order has no gaps. -/
theorem Preorder.gapless (h : d.Preorder) : d.Gapless where
  once := h.nodup_childrenOf
  listed := by
    intro i hpos hi
    have hplace : (UInt32.ofNat i).toNat = i :=
      UInt32.toNat_ofNat_of_lt' (Nat.lt_of_lt_of_le hi h.size_le)
    have hid : (d.node? (UInt32.ofNat i)).isSome = true := by
      rw [isSome_node?, hplace]
      exact hi
    have hne : UInt32.ofNat i ≠ rootId := by
      rw [ne_rootId_iff, hplace]
      exact hpos
    obtain ⟨p, hp, -⟩ := h.parent_lt hid hne
    exact ⟨UInt32.ofNat i, p, hplace, h.mem_childrenOf.mpr hp⟩
  acyclic := by
    rintro id ⟨more, hself⟩
    cases hself with
    | @child _ p _ habove hlisted =>
      have hlt : p < id := h.lt_of_parent? (h.mem_childrenOf.mp hlisted)
      have hle : id ≤ p := h.le_of_below habove
      exact UInt32.not_lt.mpr hle hlt

/-- **What the check on links leaves open.** In an accepted document every listed child is in the
row, names its lister and is listed by nobody else. The links agree in both directions, and every
node is reached from the root, exactly if no list repeats a child, every node but the root is listed
and no node is below itself. -/
theorem accepted_links_mutual_iff (d : Document) (haccepted : d.linkDefect? = none) :
    (∀ id child : NodeId, child ∈ d.childrenOf id →
      (d.node? child).isSome = true ∧ d.parent? child = some id
        ∧ ∀ q, child ∈ d.childrenOf q → q = id)
    ∧ (d.Mutual ↔ d.Gapless) := by
  have hlinked : d.Linked := linked_of_linkDefect? haccepted
  refine ⟨fun id child hlisted => hlinked.of_mem_childrenOf hlisted, ?_, ?_⟩
  · intro hmutual
    exact hmutual.gapless hlinked
  · intro hgapless
    exact hgapless.toMutual hlinked

/-- A page that is built with more closes than opens: its links are mutual. -/
theorem accepted_links_mutual_iff_built :
    let d := build ⟨"page.html"⟩ .template [.close, .open .tagBlock "extends", .ident "extends",
      .space, .string "base.html", .close, .close, .leaf .text "é"]
    d.linkDefect? = none ∧ d.Gapless ∧ d.Mutual := by
  intro d
  have haccepted : d.linkDefect? = none := by decide +kernel
  have hgapless : d.Gapless :=
    (preorder_build ⟨"page.html"⟩ .template (by decide +kernel) (by decide +kernel)).gapless
  exact ⟨haccepted, hgapless, (accepted_links_mutual_iff d haccepted).2.mpr hgapless⟩

/-- The check accepts a key that names the root and is not listed there, a key that names a parent
outside the row, a key that is listed twice, and two mappings that list each other. -/
theorem loose_links_are_accepted :
    let root (children : List NodeId) : Node := ⟨.document, "", ⟨0, 2⟩, none, children⟩
    let key (parent : NodeId) : Node := ⟨.key, "id", ⟨0, 2⟩, some parent, []⟩
    let mapping (link : NodeId) : Node := ⟨.mapping, "", ⟨0, 2⟩, some link, [link]⟩
    let row (nodes : Array Node) : Document := ⟨⟨"services.yaml"⟩, .config, nodes⟩
    let unlisted := row #[root [], key 0]
    let dangling := row #[root [], key 7]
    let repeated := row #[root [1, 1], key 0]
    let circle := row #[root [], mapping 2, mapping 1]
    (unlisted.linkDefect? = none ∧ ¬ unlisted.Mutual)
      ∧ (dangling.linkDefect? = none ∧ ¬ dangling.Mutual)
      ∧ (repeated.linkDefect? = none ∧ ¬ repeated.Mutual)
      ∧ (circle.linkDefect? = none ∧ ¬ circle.Mutual) := by
  intro root key mapping row unlisted dangling repeated circle
  refine ⟨⟨by decide +kernel, ?_⟩, ⟨by decide +kernel, ?_⟩, ⟨by decide +kernel, ?_⟩,
    ⟨by decide +kernel, ?_⟩⟩
  · intro h
    obtain ⟨p, hp, -, hcount, -⟩ := @h.listed 1 rfl (by decide)
    obtain rfl : 0 = p := Option.some.inj hp
    exact absurd hcount (by decide +kernel)
  · intro h
    obtain ⟨p, hp, hrange, -⟩ := @h.listed 1 rfl (by decide)
    obtain rfl : 7 = p := Option.some.inj hp
    exact absurd hrange (by decide +kernel)
  · intro h
    obtain ⟨p, hp, -, hcount, -⟩ := @h.listed 1 rfl (by decide)
    obtain rfl : 0 = p := Option.some.inj hp
    exact absurd hcount (by decide +kernel)
  · intro h
    obtain ⟨id, levels, hplace, hbelow⟩ := h.reached 1 (by decide)
    cases levels with
    | zero =>
      cases hbelow
      exact absurd hplace (by decide)
    | succ levels =>
      -- the first step down from the root would lead to a child
      obtain ⟨child, hchild, -⟩ := Preorder.exists_child_of_below hbelow
      exact absurd hchild List.not_mem_nil

end Signpost.Document
