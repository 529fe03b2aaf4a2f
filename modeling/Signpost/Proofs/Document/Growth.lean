/-
`Proofs/Document/Growth.lean` -- documents in the making.

Whatever is opened, left open or closed once too often, a builder holds a tree in the making. Its
links are right at every moment; its spans are not, because an open node ends where it starts until
it is closed. So the statement about spans is about the spans as they would be if everything were
closed now: `stopOf` is the end of a closed node and the offset for an open one. In these terms
closing changes nothing, moving on stretches the open nodes and nothing else, and a new node starts
and ends at the offset.

Two facts about the open nodes carry the argument. They are the way up from the innermost one, and
everything that stands after one of them hangs on it or on something later. The first lets a parent
stretch with an open node; the second says that an open node has no later sibling, and that links do
not cross. A leaf is opened, moved over and closed, so there are three operations to look at.
-/
import Signpost.Document.Builder
import Signpost.Proofs.Document.Preorder

set_option autoImplicit false

namespace Signpost.Document

/-! ## Changing spans -/

section Respan

/-- The document with another span for the node at a place. -/
def respan (d : Document) (place : NodeId) (f : Span → Span) : Document :=
  { d with nodes := d.nodes.modify place.toNat fun n => { n with span := f n.span } }

variable (d : Document) (place : NodeId) (f : Span → Span)

/-- Only the node at the place changes, and only in its span. What follows about links and places is
read off this equation. -/
theorem node?_respan (id : NodeId) :
    (d.respan place f).node? id
      = (d.node? id).map fun n => if id = place then { n with span := f n.span } else n := by
  rw [node?, node?, respan, Array.getElem?_modify]
  by_cases hid : id = place
  · rw [if_pos (by rw [hid])]
    simp only [hid, if_true]
  · rw [if_neg fun h => hid (UInt32.toNat_inj.mp h).symm]
    simp only [hid, if_false, Option.map_id_fun', id_eq]

/-- Parents stay as they are. -/
theorem parent?_respan (id : NodeId) : (d.respan place f).parent? id = d.parent? id := by
  rw [parent?, parent?, node?_respan]
  cases d.node? id with
  | none => rfl
  | some n => by_cases hid : id = place <;> simp [hid]

/-- So do the lists of children. -/
theorem childrenOf_respan (id : NodeId) : (d.respan place f).childrenOf id = d.childrenOf id := by
  rw [childrenOf, childrenOf, node?_respan]
  cases d.node? id with
  | none => rfl
  | some n => by_cases hid : id = place <;> simp [hid]

/-- No node is added or lost. -/
theorem size_respan : (d.respan place f).nodes.size = d.nodes.size := Array.size_modify

/-- The places that hold a node are the same ones. -/
theorem isSome_node?_respan (id : NodeId) :
    ((d.respan place f).node? id).isSome = (d.node? id).isSome := by
  rw [node?_respan, Option.isSome_map]

/-- The span at the place is the changed one, and every other span is kept. -/
theorem spanOf_respan {id : NodeId} (hid : (d.node? id).isSome = true) :
    (d.respan place f).spanOf id = if id = place then f (d.spanOf id) else d.spanOf id := by
  obtain ⟨n, hn⟩ := Option.isSome_iff_exists.mp hid
  rw [spanOf, spanOf, node?_respan, hn]
  by_cases hplace : id = place <;> simp [hplace]

variable {d}

/-- Spans have nothing to do with the order of the nodes. -/
theorem Preorder.respan (h : d.Preorder) : (d.respan place f).Preorder where
  size_le := by
    rw [size_respan]
    exact h.size_le
  root := by
    obtain ⟨n, hn, hparent⟩ := h.root
    obtain ⟨m, hm⟩ := Option.isSome_iff_exists.mp
      ((isSome_node?_respan d place f rootId).trans (by rw [hn]; rfl))
    refine ⟨m, hm, ?_⟩
    rw [← parent?_eq hm, parent?_respan, parent?_eq hn, hparent]
  parent_lt := by
    intro id hid hne
    rw [isSome_node?_respan] at hid
    simp only [parent?_respan]
    exact h.parent_lt hid hne
  children_eq := by
    intro id
    rw [childrenOf_respan, h.children_eq, ids, ids, size_respan]
    simp only [parent?_respan]
  nested := by
    intro x y p q hx hy
    rw [parent?_respan] at hx hy
    exact h.nested hx hy

end Respan

namespace Builder

/-! ## The builder at a moment -/

/-- The document as it stands. -/
def document (b : Builder) : Document := ⟨b.path, b.dialect, b.nodes⟩

/-- The open nodes, innermost first; the root is always open. -/
def opened (b : Builder) : List NodeId := b.stack ++ [rootId]

/-- Where a node ends if everything is closed now. -/
def stopOf (b : Builder) (id : NodeId) : UInt32 :=
  if id ∈ b.opened then b.offset else (b.document.spanOf id).stop

/-- The open nodes are the way up from the innermost one, and whatever stands after one of them
hangs on it or on something later. -/
structure OpenPath (b : Builder) : Prop where
  full : FullChain b.document.parent? b.current b.opened.tail
  last : ∀ {s x p : NodeId}, s ∈ b.opened → b.document.parent? x = some p → s < x → s ≤ p

/-- Spans run forward, lie inside each other and follow each other, once everything is closed. -/
structure SpansFit (b : Builder) : Prop where
  root_start : (b.document.spanOf rootId).start = 0
  start_le : ∀ {id : NodeId}, (b.document.node? id).isSome = true →
    (b.document.spanOf id).start ≤ b.stopOf id
  stop_le : ∀ {id : NodeId}, (b.document.node? id).isSome = true → b.stopOf id ≤ b.offset
  inside : ∀ {id p : NodeId}, b.document.parent? id = some p →
    (b.document.spanOf p).start ≤ (b.document.spanOf id).start ∧ b.stopOf id ≤ b.stopOf p
  apart : ∀ {x y p : NodeId}, b.document.parent? x = some p → b.document.parent? y = some p →
    x < y → b.stopOf x ≤ (b.document.spanOf y).start

/-- The builder holds a tree in the making. -/
structure Sound (b : Builder) : Prop where
  shape : b.document.Preorder
  path : b.OpenPath
  spans : b.SpansFit

variable {b : Builder}

/-- The list of open nodes starts with the innermost one. -/
theorem opened_eq (b : Builder) : b.opened = b.current :: b.opened.tail := by
  rw [opened, current]
  cases b.stack with
  | nil => rfl
  | cons id rest => rfl

theorem rootId_mem_opened (b : Builder) : rootId ∈ b.opened :=
  List.mem_append_right b.stack (List.mem_singleton_self rootId)

/-- New nodes are hung on an open node. -/
theorem current_mem_opened (b : Builder) : b.current ∈ b.opened := by
  rw [opened_eq]
  exact List.mem_cons_self

/-- An open node would end at the offset. -/
theorem stopOf_of_mem {id : NodeId} (h : id ∈ b.opened) : b.stopOf id = b.offset := if_pos h

/-- A closed node ends where its span says. -/
theorem stopOf_of_notMem {id : NodeId} (h : id ∉ b.opened) :
    b.stopOf id = (b.document.spanOf id).stop := if_neg h

namespace Sound

variable (h : b.Sound)

include h

/-- The parent of an open node is open. -/
theorem parent_mem_opened {id p : NodeId} (hid : id ∈ b.opened)
    (hp : b.document.parent? id = some p) : p ∈ b.opened := by
  rw [opened_eq] at hid ⊢
  exact List.mem_cons_of_mem _ (h.path.full.mem_of_next hid hp)

/-- Open nodes are in the row. -/
theorem isSome_of_mem_opened {id : NodeId} (hid : id ∈ b.opened) :
    (b.document.node? id).isSome = true := by
  cases hp : b.document.parent? id with
  | some p => exact isSome_node?_of_parent? hp
  | none =>
    -- only the last open node has no parent, and that is the root
    have hlast : id = rootId := by
      rw [opened_eq] at hid
      have hstop := h.path.full.getLast?_eq_of_next hid hp
      have hroot : (b.current :: b.opened.tail).getLast? = some rootId := by
        rw [← opened_eq, opened]
        exact List.getLast?_concat
      rw [hroot] at hstop
      exact (Option.some.inj hstop).symm
    obtain ⟨root, hroot, -⟩ := h.shape.root
    rw [hlast, hroot]
    rfl

/-- The innermost open node is the last one. -/
theorem le_current {id : NodeId} (hid : id ∈ b.opened) : id ≤ b.current := by
  have hway : ∀ {a : NodeId} {as : List NodeId}, FullChain b.document.parent? a as →
      ∀ x ∈ a :: as, x ≤ a := by
    intro a as hfull
    induction hfull with
    | stop =>
      intro x hx
      rw [List.mem_singleton.mp hx]
      exact UInt32.le_refl _
    | step hsome _ ih =>
      intro x hx
      rcases List.mem_cons.mp hx with rfl | hx
      · exact UInt32.le_refl x
      · exact UInt32.le_trans (ih x hx) (UInt32.le_of_lt (h.shape.lt_of_parent? hsome))
  rw [opened_eq] at hid
  exact hway h.path.full id hid

end Sound

/-! ## A new node -/

section Push

variable {kind : NodeKind} {text : String} {span : Span}

/-- As long as places do not wrap, the next one is the length of the row. -/
theorem toNat_nextId (hsize : b.nodes.size < UInt32.size) : b.nextId.toNat = b.nodes.size :=
  UInt32.toNat_ofNat_of_lt' hsize

/-- The next place holds no node yet. -/
theorem node?_nextId (hsize : b.nodes.size < UInt32.size) : b.document.node? b.nextId = none := by
  rw [node?, toNat_nextId hsize]
  exact Array.getElem?_eq_none (Nat.le_refl _)

/-- It comes after all places that hold one. -/
theorem lt_nextId (hsize : b.nodes.size < UInt32.size) {id : NodeId}
    (hid : (b.document.node? id).isSome = true) : id < b.nextId := by
  rw [UInt32.lt_iff_toNat_lt, toNat_nextId hsize]
  exact isSome_node?.mp hid

theorem ne_nextId (hsize : b.nodes.size < UInt32.size) {id : NodeId}
    (hid : (b.document.node? id).isSome = true) : id ≠ b.nextId :=
  UInt32.ne_of_lt (lt_nextId hsize hid)

/-- What stands at each place after a node is added: the new node at the next place, the innermost
open node with one child more, and otherwise what stood there. The equations below are the fields of
this one. -/
theorem node?_push (hsize : b.nodes.size < UInt32.size) (id : NodeId) :
    (b.push kind text span).document.node? id
      = if id = b.nextId then some ⟨kind, text, span, some b.current, []⟩
        else (b.document.node? id).map fun n =>
          if id = b.current then { n with children := n.children ++ [b.nextId] } else n := by
  have hnew : id = b.nextId ↔ id.toNat = b.nodes.size := by
    rw [← UInt32.toNat_inj, toNat_nextId hsize]
  show ((b.nodes.modify _ _).push _)[id.toNat]? = _
  rw [Array.getElem?_push, Array.size_modify, Array.getElem?_modify]
  by_cases hid : id = b.nextId
  · rw [if_pos hid, if_pos (hnew.mp hid)]
  · rw [if_neg hid, if_neg fun h => hid (hnew.mpr h)]
    by_cases hcurrent : id = b.current
    · rw [if_pos (by rw [hcurrent])]
      simp only [hcurrent, if_true]
      rfl
    · rw [if_neg fun h => hcurrent (UInt32.toNat_inj.mp h).symm]
      simp only [hcurrent, if_false, Option.map_id_fun', id_eq]
      rfl

/-- One place more holds a node. -/
theorem isSome_node?_push (hsize : b.nodes.size < UInt32.size) {id : NodeId} :
    ((b.push kind text span).document.node? id).isSome = true
      ↔ id = b.nextId ∨ (b.document.node? id).isSome = true := by
  rw [node?_push hsize]
  by_cases hid : id = b.nextId
  · simp [hid]
  · simp [hid]

/-- The new node names the innermost open node, and no other parent changes. -/
theorem parent?_push (hsize : b.nodes.size < UInt32.size) (id : NodeId) :
    (b.push kind text span).document.parent? id
      = if id = b.nextId then some b.current else b.document.parent? id := by
  rw [parent?, node?_push hsize]
  by_cases hid : id = b.nextId
  · rw [if_pos hid, if_pos hid]
    rfl
  · rw [if_neg hid, if_neg hid, parent?]
    cases b.document.node? id with
    | none => rfl
    | some n => by_cases hcurrent : id = b.current <;> simp [hcurrent]

/-- The new node has the span given to it, and no other span changes. -/
theorem spanOf_push (hsize : b.nodes.size < UInt32.size) (id : NodeId) :
    (b.push kind text span).document.spanOf id
      = if id = b.nextId then span else b.document.spanOf id := by
  rw [spanOf, node?_push hsize]
  by_cases hid : id = b.nextId
  · rw [if_pos hid, if_pos hid]
    rfl
  · rw [if_neg hid, if_neg hid, spanOf]
    cases b.document.node? id with
    | none => rfl
    | some n => by_cases hcurrent : id = b.current <;> simp [hcurrent]

/-- The innermost open node lists the new one last; no other list changes, and that of the new node
is empty. -/
theorem childrenOf_push (hsize : b.nodes.size < UInt32.size)
    (hcurrent : (b.document.node? b.current).isSome = true) (id : NodeId) :
    (b.push kind text span).document.childrenOf id
      = b.document.childrenOf id ++ if id = b.current then [b.nextId] else [] := by
  rw [childrenOf, node?_push hsize, childrenOf]
  by_cases hid : id = b.nextId
  · have hne : id ≠ b.current := fun h => ne_nextId hsize hcurrent (h.symm.trans hid)
    rw [if_pos hid, if_neg hne, hid, node?_nextId hsize]
    rfl
  · rw [if_neg hid]
    by_cases hc : id = b.current
    · obtain ⟨n, hn⟩ := Option.isSome_iff_exists.mp hcurrent
      rw [hc, hn]
      simp
    · cases b.document.node? id <;> simp [hc]

theorem size_push : (b.push kind text span).nodes.size = b.nodes.size + 1 := by
  rw [push, Array.size_push, Array.size_modify]

theorem ids_push : (b.push kind text span).document.ids = b.document.ids ++ [b.nextId] := by
  show (List.range (b.push kind text span).nodes.size).map UInt32.ofNat = _
  rw [size_push, List.range_succ, List.map_append]
  rfl

end Push

/-! ## The operations keep a builder sound -/

/-- A builder starts with the root alone, which is open and empty. -/
theorem Sound.start (path : Path) (dialect : Dialect) : (start path dialect).Sound := by
  have hnode : ∀ id : NodeId, (Builder.start path dialect).document.node? id
      = if id = rootId then some ⟨.document, "", ⟨0, 0⟩, none, []⟩ else none := by
    intro id
    by_cases hid : id = rootId
    · rw [if_pos hid, hid]
      rfl
    · have hne : id.toNat ≠ 0 := fun h => hid (UInt32.toNat_inj.mp h)
      rw [if_neg hid]
      exact Array.getElem?_eq_none (by simp [Builder.document, Builder.start]; omega)
  have hparent : ∀ id : NodeId, (Builder.start path dialect).document.parent? id = none := by
    intro id
    rw [parent?, hnode]
    by_cases hid : id = rootId <;> simp [hid]
  have hsome : ∀ {id : NodeId}, ((Builder.start path dialect).document.node? id).isSome = true →
      id = rootId := by
    intro id hid
    rw [hnode] at hid
    by_contra hne
    simp [hne] at hid
  refine ⟨⟨?_, ?_, ?_, ?_, ?_⟩, ⟨.stop (hparent _), ?_⟩, ⟨rfl, ?_, ?_, ?_, ?_⟩⟩
  · show 1 ≤ UInt32.size
    decide
  · exact ⟨_, hnode rootId, rfl⟩
  · exact fun hid hne => absurd (hsome hid) hne
  · intro id
    simp only [hparent, childrenOf, hnode]
    by_cases hid : id = rootId <;> simp [hid]
  · intro x y p q hx
    rw [hparent] at hx
    cases hx
  · intro s x p _ hx
    rw [hparent] at hx
    cases hx
  · intro id hid
    rw [hsome hid]
    exact UInt32.le_refl 0
  · intro id hid
    rw [hsome hid]
    exact UInt32.le_refl 0
  · intro id p hid
    rw [hparent] at hid
    cases hid
  · intro x y p hx
    rw [hparent] at hx
    cases hx

namespace Sound

variable (h : b.Sound)

include h

/-- A new node keeps the places in preorder: it is the last one, and what stands between it and the
innermost open node hangs on that or on something later. -/
theorem preorder_push (hsize : b.nodes.size < UInt32.size) (kind : NodeKind) (text : String)
    (span : Span) : (b.push kind text span).document.Preorder := by
  have hcurrent := h.isSome_of_mem_opened b.current_mem_opened
  refine ⟨?_, ?_, ?_, ?_, ?_⟩
  · show (b.push kind text span).nodes.size ≤ UInt32.size
    rw [size_push]
    exact hsize
  · obtain ⟨root, hroot, hnone⟩ := h.shape.root
    have hne : rootId ≠ b.nextId := ne_nextId hsize (by rw [hroot]; rfl)
    rw [node?_push hsize, if_neg hne, hroot, Option.map_some]
    refine ⟨_, rfl, ?_⟩
    by_cases hc : rootId = b.current <;> simp [hc, hnone]
  · intro id hid hne
    rw [parent?_push hsize]
    by_cases hnew : id = b.nextId
    · rw [if_pos hnew, hnew]
      exact ⟨b.current, rfl, lt_nextId hsize hcurrent⟩
    · rw [if_neg hnew]
      exact h.shape.parent_lt (((isSome_node?_push hsize).mp hid).resolve_left hnew) hne
  · intro id
    -- no parent changes among the nodes that were there
    have hold : b.document.ids.filter
        (fun x => decide ((b.push kind text span).document.parent? x = some id))
          = b.document.ids.filter (fun x => decide (b.document.parent? x = some id)) := by
      refine List.filter_congr fun x hx => ?_
      have hrange : (b.document.node? x).isSome = true :=
        isSome_node?.mpr ((mem_ids h.shape.size_le).mp hx)
      rw [parent?_push hsize, if_neg (ne_nextId hsize hrange)]
    rw [childrenOf_push hsize hcurrent, ids_push, List.filter_append, hold, h.shape.children_eq,
      List.filter_singleton, parent?_push hsize, if_pos rfl]
    by_cases hc : id = b.current
    · simp [hc]
    · simp [hc, Ne.symm hc]
  · intro x y p q hx hy hpy hyx
    rw [parent?_push hsize] at hx hy
    by_cases hxnew : x = b.nextId
    · -- the new link reaches back to the innermost open node, and no link leads across that
      rw [if_pos hxnew] at hx
      obtain rfl : b.current = p := Option.some.inj hx
      by_cases hynew : y = b.nextId
      · rw [if_pos hynew] at hy
        rw [Option.some.inj hy]
        exact UInt32.le_refl q
      · rw [if_neg hynew] at hy
        exact h.path.last b.current_mem_opened hy hpy
    · rw [if_neg hxnew] at hx
      have hynew : y ≠ b.nextId := by
        rintro rfl
        have hlt := lt_nextId hsize (isSome_node?_of_parent? hx)
        exact UInt32.not_lt.mpr hyx hlt
      rw [if_neg hynew] at hy
      exact h.shape.nested hx hy hpy hyx

end Sound

section Open

variable (hsize : b.nodes.size < UInt32.size) (kind : NodeKind) (label : String)

/-- A node that is opened is the innermost one. -/
theorem opened_openNode : (b.openNode kind label).opened = b.nextId :: b.opened := rfl

include hsize

theorem parent?_openNode (id : NodeId) : (b.openNode kind label).document.parent? id
    = if id = b.nextId then some b.current else b.document.parent? id :=
  parent?_push hsize id

theorem spanOf_openNode (id : NodeId) : (b.openNode kind label).document.spanOf id
    = if id = b.nextId then ⟨b.offset, b.offset⟩ else b.document.spanOf id :=
  spanOf_push hsize id

theorem isSome_node?_openNode {id : NodeId} :
    ((b.openNode kind label).document.node? id).isSome = true ↔
      id = b.nextId ∨ (b.document.node? id).isSome = true :=
  isSome_node?_push hsize

/-- A new node ends at the offset, and no other node ends elsewhere than before. -/
theorem stopOf_openNode (id : NodeId) :
    (b.openNode kind label).stopOf id = if id = b.nextId then b.offset else b.stopOf id := by
  by_cases hid : id = b.nextId
  · rw [if_pos hid, hid]
    exact stopOf_of_mem (opened_openNode kind label ▸ List.mem_cons_self)
  · rw [if_neg hid, stopOf, stopOf, opened_openNode, spanOf_openNode hsize, if_neg hid]
    simp only [List.mem_cons, hid, false_or]
    rfl

end Open

namespace Sound

variable (h : b.Sound)

include h

/-- The way up from the new node goes through the nodes that were open before. -/
theorem openPath_openNode (hsize : b.nodes.size < UInt32.size) (kind : NodeKind)
    (label : String) : (b.openNode kind label).OpenPath := by
  have hparent := parent?_openNode hsize kind label
  refine ⟨?_, ?_⟩
  · have hway : FullChain (b.openNode kind label).document.parent? b.current b.opened.tail := by
      refine h.path.full.congr fun x hx => ?_
      rw [← opened_eq] at hx
      rw [hparent, if_neg (ne_nextId hsize (h.isSome_of_mem_opened hx))]
    show FullChain _ b.nextId b.opened
    rw [opened_eq]
    refine .step ?_ hway
    rw [hparent, if_pos rfl]
  · intro s x p hs hx hsx
    rw [hparent] at hx
    rw [opened_openNode] at hs
    by_cases hnew : x = b.nextId
    · rw [if_pos hnew] at hx
      rw [← Option.some.inj hx]
      rcases List.mem_cons.mp hs with rfl | hs
      · exact absurd (hnew ▸ hsx) (UInt32.lt_irrefl _)
      · exact h.le_current hs
    · rw [if_neg hnew] at hx
      rcases List.mem_cons.mp hs with rfl | hs
      · have hlt := lt_nextId hsize (isSome_node?_of_parent? hx)
        exact absurd (UInt32.lt_trans hsx hlt) (UInt32.lt_irrefl _)
      · exact h.path.last hs hx hsx

/-- Nothing hangs on a new node yet. -/
theorem parent_ne_nextId (hsize : b.nodes.size < UInt32.size) {kind : NodeKind} {label : String}
    {id p : NodeId} (hp : (b.openNode kind label).document.parent? id = some p) :
    p ≠ b.nextId := by
  rw [parent?_openNode hsize] at hp
  by_cases hid : id = b.nextId
  · rw [if_pos hid] at hp
    rw [← Option.some.inj hp]
    exact ne_nextId hsize (h.isSome_of_mem_opened b.current_mem_opened)
  · rw [if_neg hid] at hp
    exact ne_nextId hsize (h.shape.isSome_parent hp)

/-- The new node is empty and stands at the offset, where its siblings have ended and the open nodes
would end. -/
theorem spansFit_openNode (hsize : b.nodes.size < UInt32.size) (kind : NodeKind)
    (label : String) : (b.openNode kind label).SpansFit := by
  have hparent := parent?_openNode hsize kind label
  have hspan := spanOf_openNode hsize kind label
  have hstop := stopOf_openNode hsize kind label
  refine ⟨?_, ?_, ?_, ?_, ?_⟩
  · have hroot := h.isSome_of_mem_opened b.rootId_mem_opened
    rw [hspan, if_neg (ne_nextId hsize hroot)]
    exact h.spans.root_start
  · intro id hid
    rw [hspan, hstop]
    by_cases hnew : id = b.nextId
    · rw [if_pos hnew, if_pos hnew]
      exact UInt32.le_refl _
    · rw [if_neg hnew, if_neg hnew]
      exact h.spans.start_le (((isSome_node?_openNode hsize kind label).mp hid).resolve_left hnew)
  · intro id hid
    show _ ≤ b.offset
    rw [hstop]
    by_cases hnew : id = b.nextId
    · rw [if_pos hnew]
      exact UInt32.le_refl _
    · rw [if_neg hnew]
      exact h.spans.stop_le (((isSome_node?_openNode hsize kind label).mp hid).resolve_left hnew)
  · intro id p hp
    have hpne := h.parent_ne_nextId hsize hp
    rw [hparent] at hp
    rw [hspan p, hstop p, if_neg hpne, if_neg hpne, hspan, hstop]
    by_cases hnew : id = b.nextId
    · -- the innermost open node ends at the offset as well
      rw [if_pos hnew] at hp
      obtain rfl : b.current = p := Option.some.inj hp
      have hcurrent := h.isSome_of_mem_opened b.current_mem_opened
      rw [if_pos hnew, if_pos hnew, stopOf_of_mem b.current_mem_opened]
      refine ⟨?_, UInt32.le_refl _⟩
      exact UInt32.le_trans (h.spans.start_le hcurrent) (h.spans.stop_le hcurrent)
    · rw [if_neg hnew] at hp
      rw [if_neg hnew, if_neg hnew]
      exact h.spans.inside hp
  · intro x y p hx hy hxy
    rw [hparent] at hx hy
    rw [hstop, hspan]
    by_cases hxnew : x = b.nextId
    · -- nothing stands after the new node
      have hynew : y ≠ b.nextId := fun hy => UInt32.lt_irrefl _ (hxnew ▸ hy ▸ hxy)
      rw [if_neg hynew] at hy
      have hlt := lt_nextId hsize (isSome_node?_of_parent? hy)
      exact absurd (UInt32.lt_trans (hxnew ▸ hxy) hlt) (UInt32.lt_irrefl _)
    · rw [if_neg hxnew] at hx ⊢
      by_cases hynew : y = b.nextId
      · rw [if_pos hynew]
        exact h.spans.stop_le (isSome_node?_of_parent? hx)
      · rw [if_neg hynew] at hy ⊢
        exact h.spans.apart hx hy hxy

/-- **Opening a node** keeps a builder sound, as long as there is a place for it. -/
theorem openNode (hsize : b.nodes.size < UInt32.size) (kind : NodeKind) (label : String) :
    (b.openNode kind label).Sound where
  shape := h.preorder_push hsize kind label _
  path := h.openPath_openNode hsize kind label
  spans := h.spansFit_openNode hsize kind label

/-- Moving on stretches the open nodes. An open node has no later sibling that it could reach. -/
theorem advance {bytes : UInt32} (hle : b.offset ≤ b.offset + bytes) : (b.advance bytes).Sound := by
  have hopen : ∀ {id}, id ∈ b.opened → (b.advance bytes).stopOf id = b.offset + bytes :=
    fun hid => stopOf_of_mem hid
  have hclosed : ∀ {id}, id ∉ b.opened → (b.advance bytes).stopOf id = b.stopOf id := by
    intro id hid
    rw [stopOf_of_notMem hid]
    exact stopOf_of_notMem (b := b.advance bytes) hid
  have hstop : ∀ {id}, (b.document.node? id).isSome = true →
      b.stopOf id ≤ (b.advance bytes).stopOf id := by
    intro id hid
    by_cases hmem : id ∈ b.opened
    · rw [hopen hmem]
      exact UInt32.le_trans (h.spans.stop_le hid) hle
    · rw [hclosed hmem]
      exact UInt32.le_refl _
  refine ⟨h.shape, ⟨h.path.full, h.path.last⟩, ⟨h.spans.root_start, ?_, ?_, ?_, ?_⟩⟩
  · intro id hid
    exact UInt32.le_trans (h.spans.start_le hid) (hstop hid)
  · intro id hid
    show _ ≤ b.offset + bytes
    by_cases hmem : id ∈ b.opened
    · rw [hopen hmem]
      exact UInt32.le_refl _
    · rw [hclosed hmem]
      exact UInt32.le_trans (h.spans.stop_le hid) hle
  · intro id p hp
    have hinside := h.spans.inside hp
    refine ⟨hinside.1, ?_⟩
    by_cases hmem : id ∈ b.opened
    · -- the parent is open as well and stretches with it
      rw [hopen hmem, hopen (h.parent_mem_opened hmem hp)]
      exact UInt32.le_refl _
    · rw [hclosed hmem]
      exact UInt32.le_trans hinside.2 (hstop (h.shape.isSome_parent hp))
  · intro x y p hx hy hxy
    have hmem : x ∉ b.opened := by
      intro hmem
      have hxp := h.path.last hmem hy hxy
      exact absurd (h.shape.lt_of_parent? hx) (UInt32.not_lt.mpr hxp)
    rw [hclosed hmem]
    exact h.spans.apart hx hy hxy

end Sound

/-! Closing a node writes down the end that it has anyway. -/

section Close

variable {top : NodeId} {rest : List NodeId} (hstack : b.stack = top :: rest)

include hstack

theorem close_eq : b.close = { b with
    nodes := b.nodes.modify top.toNat fun n => { n with span := ⟨n.span.start, b.offset⟩ }
    stack := rest } := by
  rw [close, hstack]

/-- Closing writes the offset down as the end of the innermost open node. -/
theorem document_close :
    b.close.document = b.document.respan top fun span => ⟨span.start, b.offset⟩ := by
  rw [close_eq hstack]
  rfl

/-- That node is open no longer. -/
theorem opened_close : b.opened = top :: b.close.opened := by
  rw [opened, opened, close_eq hstack, hstack]
  rfl

/-- It starts where it started. -/
theorem start_close {id : NodeId} (hid : (b.document.node? id).isSome = true) :
    (b.close.document.spanOf id).start = (b.document.spanOf id).start := by
  rw [document_close hstack, spanOf_respan _ _ _ hid]
  by_cases htop : id = top <;> simp [htop]

/-- Each node ends where it would have ended, so nothing that is said in terms of these ends has to
be proved again. -/
theorem stopOf_close {id : NodeId} (hid : (b.document.node? id).isSome = true) :
    b.close.stopOf id = b.stopOf id := by
  have hoffset : b.close.offset = b.offset := by rw [close_eq hstack]
  by_cases hmem : id ∈ b.close.opened
  · have hbefore : id ∈ b.opened := by
      rw [opened_close hstack]
      exact List.mem_cons_of_mem top hmem
    rw [stopOf_of_mem hmem, stopOf_of_mem hbefore, hoffset]
  · rw [stopOf_of_notMem hmem, document_close hstack, spanOf_respan _ _ _ hid]
    by_cases htop : id = top
    · have hbefore : id ∈ b.opened := by
        rw [opened_close hstack, htop]
        exact List.mem_cons_self
      rw [if_pos htop, stopOf_of_mem hbefore]
    · have hbefore : id ∉ b.opened := by
        rw [opened_close hstack, List.mem_cons, not_or]
        exact ⟨htop, hmem⟩
      rw [if_neg htop, stopOf_of_notMem hbefore]

end Close

namespace Sound

variable (h : b.Sound) {top : NodeId} {rest : List NodeId} (hstack : b.stack = top :: rest)

include h hstack

/-- The way up from the closed node without its first step. -/
theorem openPath_close : b.close.OpenPath := by
  have hparent : ∀ id, b.close.document.parent? id = b.document.parent? id := by
    intro id
    rw [document_close hstack, parent?_respan]
  refine ⟨?_, ?_⟩
  · have hway : FullChain b.document.parent? b.close.current b.close.opened.tail := by
      have hfull := h.path.full
      have htail : b.opened.tail = b.close.current :: b.close.opened.tail := by
        rw [opened_close hstack, List.tail_cons, ← opened_eq]
      rw [htail] at hfull
      cases hfull with
      | step _ hrest => exact hrest
    exact hway.congr fun x _ => hparent x
  · intro s x p hs hx hsx
    have hbefore : s ∈ b.opened := by
      rw [opened_close hstack]
      exact List.mem_cons_of_mem top hs
    rw [hparent] at hx
    exact h.path.last hbefore hx hsx

/-- Starts and ends are the ones from before, hence so is how the spans fit. -/
theorem spansFit_close : b.close.SpansFit := by
  have hsome : ∀ id, (b.close.document.node? id).isSome = (b.document.node? id).isSome := by
    intro id
    rw [document_close hstack, isSome_node?_respan]
  have hparent : ∀ id, b.close.document.parent? id = b.document.parent? id := by
    intro id
    rw [document_close hstack, parent?_respan]
  refine ⟨?_, ?_, ?_, ?_, ?_⟩
  · rw [start_close hstack (h.isSome_of_mem_opened b.rootId_mem_opened)]
    exact h.spans.root_start
  · intro id hid
    rw [hsome] at hid
    rw [start_close hstack hid, stopOf_close hstack hid]
    exact h.spans.start_le hid
  · intro id hid
    have hoffset : b.close.offset = b.offset := by rw [close_eq hstack]
    rw [hsome] at hid
    rw [stopOf_close hstack hid, hoffset]
    exact h.spans.stop_le hid
  · intro id p hp
    rw [hparent] at hp
    have hid := isSome_node?_of_parent? hp
    have hrange := h.shape.isSome_parent hp
    rw [start_close hstack hid, start_close hstack hrange, stopOf_close hstack hid,
      stopOf_close hstack hrange]
    exact h.spans.inside hp
  · intro x y p hx hy hxy
    rw [hparent] at hx hy
    rw [stopOf_close hstack (isSome_node?_of_parent? hx),
      start_close hstack (isSome_node?_of_parent? hy)]
    exact h.spans.apart hx hy hxy

omit hstack in
/-- **Closing** keeps a builder sound; without an open node but the root it does nothing. -/
theorem close : b.close.Sound := by
  cases hstack : b.stack with
  | nil =>
    have hclose : b.close = b := by rw [Builder.close, hstack]
    rw [hclose]
    exact h
  | cons top rest =>
    refine ⟨?_, h.openPath_close hstack, h.spansFit_close hstack⟩
    rw [document_close hstack]
    exact h.shape.respan _ _

end Sound

/-- **A leaf is opened, moved over and closed.** -/
theorem leaf_eq (hsize : b.nodes.size < UInt32.size) (kind : NodeKind) (text : String) :
    b.leaf kind text
      = ((b.openNode kind text).advance (UInt32.ofNat text.utf8ByteSize)).close := by
  have hpush : ∀ (nodes : Array Node) (n : Node) (f : Node → Node),
      (nodes.push n).modify nodes.size f = nodes.push (f n) := by
    -- a change to the last node can be made before it is added
    intro nodes n f
    refine Array.ext_getElem? fun i => ?_
    rw [Array.getElem?_modify, Array.getElem?_push, Array.getElem?_push]
    by_cases hi : i = nodes.size
    · simp [hi]
    · simp [hi, Ne.symm hi]
  have hnext : b.nextId.toNat
      = (b.nodes.modify b.current.toNat fun p =>
          { p with children := p.children ++ [b.nextId] }).size := by
    rw [toNat_nextId hsize, Array.size_modify]
  rw [close, openNode, advance, leaf, push, push]
  simp only
  rw [hnext, hpush]

end Builder

end Signpost.Document
