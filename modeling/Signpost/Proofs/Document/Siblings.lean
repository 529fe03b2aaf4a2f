/-
`Proofs/Document/Siblings.lean` -- rows of siblings.

A node finds its neighbours by looking itself up in the list of its parent. Where every listed child
names the node that lists it, and no list names a child twice, the neighbours stand in one row: the
look-up of a neighbour lands in the same list, one place further on. Going on from neighbour to
neighbour then reads off the rest of the list, and the bound on such walks is never met.

A builder keeps its lists orderly whatever becomes of the offset, so nothing is asked of the texts
here: only the places of the nodes must not wrap. `Row id before after` says where a node stands in
its row. The walks to both sides are read off it.
-/
import Signpost.Proofs.Document.Builder

set_option autoImplicit false

namespace Signpost.Document

variable {d : Document}

/-- Every listed child names the node that lists it, and is listed there once. -/
structure Orderly (d : Document) : Prop where
  back : ∀ {id child : NodeId}, child ∈ d.childrenOf id → d.parent? child = some id
  nodup : ∀ id : NodeId, (d.childrenOf id).Nodup

/-- In preorder a list of children is increasing, so it names nobody twice. -/
theorem Preorder.orderly (h : d.Preorder) : d.Orderly where
  back := h.mem_childrenOf.mp
  nodup := h.nodup_childrenOf

/-! ## Built documents are orderly -/

/-- Spans have nothing to do with the lists of children. -/
theorem Orderly.respan (h : d.Orderly) (place : NodeId) (f : Span → Span) :
    (d.respan place f).Orderly where
  back := by
    intro id child hlisted
    rw [childrenOf_respan] at hlisted
    rw [parent?_respan]
    exact h.back hlisted
  nodup := by
    intro id
    rw [childrenOf_respan]
    exact h.nodup id

namespace Builder

/-- The lists of a builder are orderly, its open nodes are in the row, and the row holds as many
nodes as were asked for, after the root. -/
structure Listing (b : Builder) (count : Nat) : Prop where
  orderly : b.document.Orderly
  isSome_opened : ∀ {id : NodeId}, id ∈ b.opened → (b.document.node? id).isSome = true
  size_eq : b.nodes.size = count + 1

namespace Listing

/-- In the beginning there is nothing but the root. -/
theorem start (path : Path) (dialect : Dialect) : (Builder.start path dialect).Listing 0 where
  orderly := (Sound.start path dialect).shape.orderly
  isSome_opened := (Sound.start path dialect).isSome_of_mem_opened
  size_eq := rfl

variable {b : Builder} {count : Nat} (h : b.Listing count)

include h

/-- A new node is listed nowhere yet. -/
theorem nextId_notMem_childrenOf (hsize : b.nodes.size < UInt32.size) (id : NodeId) :
    b.nextId ∉ b.document.childrenOf id := by
  intro hlisted
  exact ne_nextId hsize (isSome_node?_of_parent? (h.orderly.back hlisted)) rfl

/-- A new node is listed once, by the innermost open node, which it names. -/
theorem orderly_openNode (hsize : b.nodes.size < UInt32.size) (kind : NodeKind) (label : String) :
    (b.openNode kind label).document.Orderly := by
  have hcurrent := h.isSome_opened b.current_mem_opened
  have hchildren : ∀ id, (b.openNode kind label).document.childrenOf id
      = b.document.childrenOf id ++ if id = b.current then [b.nextId] else [] :=
    childrenOf_push hsize hcurrent
  have hparent := parent?_openNode hsize kind label
  constructor
  · intro id child hlisted
    rw [hchildren, List.mem_append] at hlisted
    rw [hparent]
    rcases hlisted with hold | hlast
    · have hback := h.orderly.back hold
      rw [if_neg (ne_nextId hsize (isSome_node?_of_parent? hback)), hback]
    · by_cases hid : id = b.current
      · rw [if_pos hid, List.mem_singleton] at hlast
        rw [if_pos hlast, hid]
      · rw [if_neg hid] at hlast
        exact absurd hlast List.not_mem_nil
  · intro id
    rw [hchildren]
    refine (h.orderly.nodup id).append ?_ ?_
    · by_cases hid : id = b.current <;> simp [hid]
    · intro child hold hlast
      by_cases hid : id = b.current
      · rw [if_pos hid, List.mem_singleton] at hlast
        exact h.nextId_notMem_childrenOf hsize id (hlast ▸ hold)
      · rw [if_neg hid] at hlast
        exact absurd hlast List.not_mem_nil

/-- Opening a node adds it to one list. -/
theorem openNode (hsize : count + 1 < UInt32.size) (kind : NodeKind) (label : String) :
    (b.openNode kind label).Listing (count + 1) := by
  rw [← h.size_eq] at hsize
  refine ⟨h.orderly_openNode hsize kind label, ?_, ?_⟩
  · intro id hid
    rw [opened_openNode, List.mem_cons] at hid
    exact (isSome_node?_openNode hsize kind label).mpr (hid.imp_right h.isSome_opened)
  · rw [← h.size_eq]
    exact size_push

/-- Moving on touches no link. -/
theorem advance (bytes : UInt32) : (b.advance bytes).Listing count :=
  ⟨h.orderly, h.isSome_opened, h.size_eq⟩

/-- Closing changes a span and no link. -/
theorem close : b.close.Listing count := by
  cases hstack : b.stack with
  | nil =>
    have hclose : b.close = b := by rw [Builder.close, hstack]
    rw [hclose]
    exact h
  | cons top rest =>
    refine ⟨?_, ?_, ?_⟩
    · rw [document_close hstack]
      exact h.orderly.respan _ _
    · intro id hid
      rw [document_close hstack, isSome_node?_respan]
      refine h.isSome_opened ?_
      rw [opened_close hstack]
      exact List.mem_cons_of_mem top hid
    · rw [← h.size_eq, close_eq hstack]
      exact Array.size_modify

/-- A leaf is added as a node that is opened and closed. -/
theorem leaf (hsize : count + 1 < UInt32.size) (kind : NodeKind) (text : String) :
    (b.leaf kind text).Listing (count + 1) := by
  rw [leaf_eq (h.size_eq ▸ hsize)]
  exact ((h.openNode hsize kind text).advance _).close

/-- **One step** adds the nodes that it asks for to the end of one list each. -/
theorem step (s : Step) (hsize : count + s.requests.length < UInt32.size) :
    (b.step s).Listing (count + s.requests.length) := by
  cases s with
  | «open» kind label => exact h.openNode hsize kind label
  | leaf kind text => exact h.leaf hsize kind text
  | close => exact h.close
  | advance bytes => exact h.advance bytes
  | ident text => exact h.leaf hsize .identifier text
  | punct text => exact h.leaf hsize .punct text
  | space => exact h.leaf hsize .whitespace " "
  | string contents => exact ((h.advance 1).leaf hsize .stringLiteral contents).advance 1
  | keyValue key =>
    have hsize : count + 1 + 1 < UInt32.size := hsize
    exact ((h.openNode (by omega) .keyValue key).leaf hsize .key key).advance 2
  | scalar raw => exact h.leaf hsize .scalar raw
  | scalarEntry key raw =>
    have hsize : count + 1 + 1 + 1 < UInt32.size := hsize
    have hpair := ((h.openNode (by omega) .keyValue key).leaf (by omega) .key key).advance 2
    exact ((hpair.leaf hsize .scalar raw).advance 1).close

/-- **A run** does so for all its steps. -/
theorem foldl_step (steps : List Step)
    (hsize : count + (steps.flatMap Step.requests).length < UInt32.size) :
    (steps.foldl Builder.step b).Listing (count + (steps.flatMap Step.requests).length) := by
  refine foldl_step_induction (P := fun done b =>
    b.Listing (count + (done.flatMap Step.requests).length)) h ?_
  rintro done rest s rfl hdone
  rw [List.flatMap_append, List.length_append, List.flatMap_cons, List.length_append] at hsize
  have hstep := hdone.step s (by omega)
  rw [Nat.add_assoc] at hstep
  rw [List.flatMap_append, List.flatMap_singleton, List.length_append]
  exact hstep

/-- Closing whatever is open keeps the lists as they are. -/
theorem closeAll : b.closeAll.Listing count :=
  closeAll_induction (P := fun b => b.Listing count) (fun _ h => h.close) h

end Listing

end Builder

/-- Documents that are built are orderly, however long their texts are. -/
theorem orderly_build (path : Path) (dialect : Dialect) {steps : List Builder.Step}
    (hnodes : (steps.flatMap Builder.Step.requests).length < UInt32.size) :
    (build path dialect steps).Orderly := by
  have hrun := (Builder.Listing.start path dialect).foldl_step steps (by rwa [Nat.zero_add])
  rw [build, Builder.finish_eq]
  exact hrun.closeAll.orderly.respan _ _

/-! ## Where a node stands -/

/-- The node stands in its parent's list between the given siblings. -/
def Row (d : Document) (id : NodeId) (before after : List NodeId) : Prop :=
  ∃ parent, d.parent? id = some parent ∧ d.childrenOf parent = before ++ id :: after

/-- A node that finds itself among its siblings stands in a row. -/
theorem exists_row_of_mem {id : NodeId} (h : id ∈ d.siblingsOf id) :
    ∃ before after, d.Row id before after := by
  cases hparent : d.parent? id with
  | none =>
    rw [siblingsOf, hparent] at h
    exact absurd h List.not_mem_nil
  | some parent =>
    rw [siblingsOf, hparent] at h
    obtain ⟨before, after, hrow⟩ := List.append_of_mem h
    exact ⟨before, after, parent, hparent, hrow⟩

/-- A node with a sibling just before it has found itself. -/
theorem exists_row_of_prevSibling? {id prev : NodeId} (h : d.prevSibling? id = some prev) :
    ∃ before after, d.Row id before after := by
  refine exists_row_of_mem ?_
  by_contra hout
  rw [prevSibling?, List.idxOf?_eq_none_iff.mpr hout] at h
  cases h

/-- Nothing precedes a node that has no sibling just before it. -/
theorem preceding_of_first {id : NodeId} (h : d.prevSibling? id = none) : d.preceding id = [] :=
  (FullChain.stop h).chain_eq (Nat.zero_le _)

/-- A node with anything before it stands in a row. -/
theorem exists_row_of_prevSignificant? {id prev : NodeId} (h : d.prevSignificant? id = some prev) :
    ∃ before after, d.Row id before after := by
  cases hprev : d.prevSibling? id with
  | none =>
    rw [prevSignificant?_eq, preceding_of_first hprev] at h
    cases h
  | some sibling => exact exists_row_of_prevSibling? hprev

/-- A node with a sibling just after it has found itself. -/
theorem exists_row_of_nextSibling? {id next : NodeId} (h : d.nextSibling? id = some next) :
    ∃ before after, d.Row id before after := by
  refine exists_row_of_mem ?_
  by_contra hout
  rw [nextSibling?, List.idxOf?_eq_none_iff.mpr hout] at h
  cases h

/-- Nothing follows a node that has no sibling just after it. -/
theorem following_of_last {id : NodeId} (h : d.nextSibling? id = none) : d.following id = [] :=
  (FullChain.stop h).chain_eq (Nat.zero_le _)

/-- So does a node with anything after it. -/
theorem exists_row_of_nextSignificant? {id next : NodeId} (h : d.nextSignificant? id = some next) :
    ∃ before after, d.Row id before after := by
  cases hnext : d.nextSibling? id with
  | none =>
    rw [nextSignificant?_eq, following_of_last hnext] at h
    cases h
  | some sibling => exact exists_row_of_nextSibling? hnext

/-- The siblings of a node, itself among them, are its row. -/
theorem Row.siblingsOf_eq {id : NodeId} {before after : List NodeId} (hrow : d.Row id before after) :
    d.siblingsOf id = before ++ id :: after := by
  obtain ⟨parent, hparent, hlist⟩ := hrow
  rw [siblingsOf, hparent, Option.map_some, Option.getD_some, hlist]

namespace Orderly

variable (h : d.Orderly) {id : NodeId} {before after : List NodeId}

include h

/-- Everyone in a row stands in the same row. -/
theorem row_of_mem {other : NodeId} {left right : List NodeId} (hrow : d.Row id before after)
    (hsame : before ++ id :: after = left ++ other :: right) : d.Row other left right := by
  obtain ⟨parent, -, hlist⟩ := hrow
  rw [hsame] at hlist
  refine ⟨parent, h.back ?_, hlist⟩
  rw [hlist]
  exact List.mem_append_right left List.mem_cons_self

/-- A node finds itself at its own place, since it is not listed before. -/
theorem idxOf?_siblingsOf (hrow : d.Row id before after) :
    (d.siblingsOf id).idxOf? id = some before.length := by
  have hnodup : (before ++ id :: after).Nodup := by
    obtain ⟨parent, -, hlist⟩ := hrow
    exact hlist ▸ h.nodup parent
  rw [List.nodup_append] at hnodup
  rw [hrow.siblingsOf_eq, List.idxOf?_eq_some_iff]
  refine ⟨by simp, by simp, fun j hj => ?_⟩
  rw [List.getElem_append_left hj]
  exact hnodup.2.2 _ (List.getElem_mem hj) _ List.mem_cons_self

/-- The sibling just after a node is the first of what is left of its row. -/
theorem nextSibling?_eq (hrow : d.Row id before after) : d.nextSibling? id = after.head? := by
  rw [nextSibling?, h.idxOf?_siblingsOf hrow, hrow.siblingsOf_eq]
  cases after <;> simp

/-- The sibling just before a node is the last of what comes before it in its row. -/
theorem prevSibling?_eq (hrow : d.Row id before after) : d.prevSibling? id = before.getLast? := by
  rw [prevSibling?, h.idxOf?_siblingsOf hrow, hrow.siblingsOf_eq]
  induction before using List.reverseRecOn with
  | nil => rfl
  | append_singleton before prev _ => simp

/-- Going from a node to the next one reads off the rest of its row and ends there. -/
theorem fullChain_nextSibling? (hrow : d.Row id before after) :
    FullChain d.nextSibling? id after := by
  -- the next sibling looks itself up in the same list, so the induction is on what is left of it
  induction after generalizing id before with
  | nil => exact .stop (h.nextSibling?_eq hrow)
  | cons next after ih =>
    have hnext := h.row_of_mem hrow (List.append_cons before id (next :: after))
    exact .step (h.nextSibling?_eq hrow) (ih hnext)

/-- Going back reads off its row up to it, turned round. -/
theorem fullChain_prevSibling? (hrow : d.Row id before after) :
    FullChain d.prevSibling? id before.reverse := by
  induction before using List.reverseRecOn generalizing id after with
  | nil => exact .stop (h.prevSibling?_eq hrow)
  | append_singleton before prev ih =>
    have hprev := h.row_of_mem hrow (List.append_cons before prev (id :: after)).symm
    rw [List.reverse_concat]
    exact .step ((h.prevSibling?_eq hrow).trans List.getLast?_concat) (ih hprev)

/-- The siblings after a node are the rest of its row. -/
theorem following_eq (hrow : d.Row id before after) : d.following id = after := by
  refine (h.fullChain_nextSibling? hrow).chain_eq ?_
  rw [hrow.siblingsOf_eq, List.length_append, List.length_cons]
  omega

/-- The siblings before a node are its row up to it, turned round. -/
theorem preceding_eq (hrow : d.Row id before after) : d.preceding id = before.reverse := by
  refine (h.fullChain_prevSibling? hrow).chain_eq ?_
  rw [hrow.siblingsOf_eq, List.length_append, List.length_reverse]
  omega

/-- The next node that is not whitespace stands behind a run of whitespace. -/
theorem nextSignificant?_eq_some_iff (hrow : d.Row id before after) {next : NodeId} :
    d.nextSignificant? id = some next ↔ d.isWhitespace next = false
      ∧ ∃ blank rest, after = blank ++ next :: rest ∧ ∀ b ∈ blank, d.isWhitespace b = true := by
  rw [nextSignificant?_eq, h.following_eq hrow, List.find?_eq_some_iff_append]
  simp only [Bool.not_eq_eq_eq_not, Bool.not_true, Bool.not_not]

/-- The previous node that is not whitespace stands before a run of whitespace. -/
theorem prevSignificant?_eq_some_iff (hrow : d.Row id before after) {prev : NodeId} :
    d.prevSignificant? id = some prev ↔ d.isWhitespace prev = false
      ∧ ∃ rest blank, before = rest ++ prev :: blank ∧ ∀ b ∈ blank, d.isWhitespace b = true := by
  rw [prevSignificant?_eq, h.preceding_eq hrow, List.find?_eq_some_iff_append]
  simp only [Bool.not_eq_eq_eq_not, Bool.not_true, Bool.not_not]
  refine and_congr_right fun _ => ?_
  constructor
  · rintro ⟨blank, rest, hsplit, hblank⟩
    refine ⟨rest.reverse, blank.reverse, ?_, fun b hb => hblank b (List.mem_reverse.mp hb)⟩
    rw [← List.reverse_reverse before, hsplit]
    simp
  · rintro ⟨rest, blank, rfl, hblank⟩
    refine ⟨blank.reverse, rest.reverse, ?_, fun b hb => hblank b (List.mem_reverse.mp hb)⟩
    simp

/-- The way to the next node that is not whitespace can be taken back. -/
theorem prevSignificant?_of_nextSignificant? {next : NodeId}
    (hnext : d.nextSignificant? id = some next) (hsolid : d.isWhitespace id = false) :
    d.prevSignificant? next = some id := by
  obtain ⟨before, after, hrow⟩ := exists_row_of_nextSignificant? hnext
  obtain ⟨-, blank, rest, rfl, hblank⟩ := (h.nextSignificant?_eq_some_iff hrow).mp hnext
  have hback : d.Row next (before ++ id :: blank) rest := h.row_of_mem hrow (by simp)
  exact (h.prevSignificant?_eq_some_iff hback).mpr ⟨hsolid, before, blank, rfl, hblank⟩

end Orderly

end Signpost.Document
