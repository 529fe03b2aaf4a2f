/-
`Proofs/Document/Builder.lean` -- documents that are built step by step.

A whole run of a builder is accounted for by the nodes that its steps ask for and the bytes that
they take up, as plain numbers. As long as these fit the places and offsets nothing wraps, and the
finished document is a tree over its source that holds what was asked for.
-/
import Signpost.Proofs.Document.Growth

set_option autoImplicit false

namespace Signpost.Document

namespace Builder

variable {b : Builder}

/-! ## What becomes of a node -/

/-- A node that is there keeps its kind and text, and once it is closed it stays as it is. -/
def Keeps (b after : Builder) : Prop :=
  ∀ ⦃id : NodeId⦄ ⦃node : Node⦄, b.document.node? id = some node →
    ∃ kept, after.document.node? id = some kept ∧ kept.kind = node.kind ∧ kept.text = node.text
      ∧ (id ∉ b.opened → kept = node ∧ id ∉ after.opened)

/-- What is kept twice is kept. -/
theorem Keeps.followedBy {after later : Builder} (h : b.Keeps after) (hlater : after.Keeps later) :
    b.Keeps later := by
  intro id node hnode
  obtain ⟨kept, hkept, hkind, htext, hclosed⟩ := h hnode
  obtain ⟨last, hlast, hkind', htext', hclosed'⟩ := hlater hkept
  refine ⟨last, hlast, hkind'.trans hkind, htext'.trans htext, ?_⟩
  intro hid
  obtain ⟨rfl, hafter⟩ := hclosed hid
  exact hclosed' hafter

/-- Moving on touches no node. -/
theorem keeps_advance (bytes : UInt32) : b.Keeps (b.advance bytes) := by
  intro id node hnode
  exact ⟨node, hnode, rfl, rfl, fun hid => ⟨rfl, hid⟩⟩

/-- Opening a node adds a child to an open node, and touches no other. -/
theorem keeps_openNode (hsize : b.nodes.size < UInt32.size) (kind : NodeKind) (label : String) :
    b.Keeps (b.openNode kind label) := by
  intro id node hnode
  have hne : id ≠ b.nextId := ne_nextId hsize (by rw [hnode]; rfl)
  have hafter : (b.openNode kind label).document.node? id = some
      (if id = b.current then { node with children := node.children ++ [b.nextId] } else node) := by
    show (b.push kind label ⟨b.offset, b.offset⟩).document.node? id = _
    rw [node?_push hsize, if_neg hne, hnode]
    rfl
  refine ⟨_, hafter, ?_, ?_, ?_⟩
  · by_cases hc : id = b.current <;> simp [hc]
  · by_cases hc : id = b.current <;> simp [hc]
  · intro hid
    have hc : id ≠ b.current := fun hc => hid (hc ▸ b.current_mem_opened)
    refine ⟨if_neg hc, ?_⟩
    show id ∉ b.nextId :: b.opened
    rw [List.mem_cons, not_or]
    exact ⟨hne, hid⟩

/-- Closing changes the span of an open node, and no other. -/
theorem keeps_close : b.Keeps b.close := by
  intro id node hnode
  rw [close]
  cases hstack : b.stack with
  | nil => exact ⟨node, hnode, rfl, rfl, fun hid => ⟨rfl, hid⟩⟩
  | cons top rest =>
    have hafter := node?_respan b.document top (fun span => ⟨span.start, b.offset⟩) id
    rw [hnode, Option.map_some] at hafter
    refine ⟨_, hafter, ?_, ?_, ?_⟩
    · by_cases htop : id = top <;> simp [htop]
    · by_cases htop : id = top <;> simp [htop]
    · intro hid
      rw [opened, hstack, List.cons_append, List.mem_cons, not_or] at hid
      exact ⟨if_neg hid.1, hid.2⟩

/-- What one close keeps is kept by closing whatever is open. -/
theorem closeAll_induction {P : Builder → Prop} (hclose : ∀ b, P b → P b.close) (h : P b) :
    P b.closeAll := by
  have hrun : ∀ (ids : List NodeId) (b : Builder), P b → P (ids.foldl (fun b _ => b.close) b) := by
    intro ids
    induction ids with
    | nil => exact fun b h => h
    | cons id ids ih => exact fun b h => ih b.close (hclose b h)
  exact hrun b.stack b h

/-! ## What steps ask for -/

/-- A node that a step asks for. -/
structure Request where
  kind : NodeKind
  text : String
  /-- Whether the node is added as a leaf. -/
  leaf : Bool
  deriving DecidableEq, Repr

/-- The nodes that a step asks for, in order. -/
def Step.requests : Step → List Request
  | .open kind label => [⟨kind, label, false⟩]
  | .leaf kind text => [⟨kind, text, true⟩]
  | .close => []
  | .advance _ => []
  | .ident text => [⟨.identifier, text, true⟩]
  | .punct text => [⟨.punct, text, true⟩]
  | .space => [⟨.whitespace, " ", true⟩]
  | .string contents => [⟨.stringLiteral, contents, true⟩]
  | .keyValue key => [⟨.keyValue, key, false⟩, ⟨.key, key, true⟩]
  | .scalar raw => [⟨.scalar, raw, true⟩]
  | .scalarEntry key raw => [⟨.keyValue, key, false⟩, ⟨.key, key, true⟩, ⟨.scalar, raw, true⟩]

/-- The bytes that a step takes up. -/
def Step.bytes : Step → Nat
  | .open _ _ => 0
  | .leaf _ text => text.utf8ByteSize
  | .close => 0
  | .advance bytes => bytes.toNat
  | .ident text => text.utf8ByteSize
  | .punct text => text.utf8ByteSize
  | .space => 1
  | .string contents => contents.utf8ByteSize + 2
  | .keyValue key => key.utf8ByteSize + 2
  | .scalar raw => raw.utf8ByteSize
  | .scalarEntry key raw => key.utf8ByteSize + raw.utf8ByteSize + 3

/-- The bytes that steps take up together. -/
def totalBytes : List Step → Nat
  | [] => 0
  | s :: steps => s.bytes + totalBytes steps

/-- Runs take up their bytes one after the other. -/
theorem totalBytes_append (steps more : List Step) :
    totalBytes (steps ++ more) = totalBytes steps + totalBytes more := by
  induction steps with
  | nil => rw [List.nil_append, totalBytes, Nat.zero_add]
  | cons s steps ih => rw [List.cons_append, totalBytes, totalBytes, ih, Nat.add_assoc]

/-- **What every step of a run keeps, the run keeps.** The property may speak of the steps taken so
far; a step is looked at where it stands in the run, after those and before the rest. -/
theorem foldl_step_induction {P : List Step → Builder → Prop} {steps : List Step} (hstart : P [] b)
    (hstep : ∀ {done rest : List Step} {s : Step}, steps = done ++ s :: rest →
      P done (done.foldl step b) → P (done ++ [s]) ((done.foldl step b).step s)) :
    P steps (steps.foldl step b) := by
  induction steps using List.reverseRecOn with
  | nil => exact hstart
  | append_singleton steps last ih =>
    rw [List.foldl_concat]
    refine hstep rfl (ih ?_)
    rintro done rest s rfl
    exact hstep (by rw [List.append_assoc, List.cons_append])

/-- The node at a place is the one asked for; if it was added as a leaf, it is closed, has no
children and is as long as its text. -/
def Meets (b : Builder) (place : NodeId) (r : Request) : Prop :=
  ∃ node, b.document.node? place = some node ∧ node.kind = r.kind ∧ node.text = r.text
    ∧ (r.leaf = true → place ∉ b.opened ∧ node.children = []
      ∧ node.span.start.toNat + r.text.utf8ByteSize = node.span.stop.toNat)

/-- A node that was asked for stays the one asked for. -/
theorem Meets.keep {place : NodeId} {r : Request} {after : Builder} (h : b.Meets place r)
    (hkeeps : b.Keeps after) : after.Meets place r := by
  obtain ⟨node, hnode, hkind, htext, hleaf⟩ := h
  obtain ⟨kept, hkept, hkind', htext', hclosed⟩ := hkeeps hnode
  refine ⟨kept, hkept, hkind'.trans hkind, htext'.trans htext, ?_⟩
  intro hr
  obtain ⟨hid, hchildren, hspan⟩ := hleaf hr
  obtain ⟨rfl, hafter⟩ := hclosed hid
  exact ⟨hafter, hchildren, hspan⟩

/-- The builder is sound and holds, after the root, just the nodes that were asked for; its offset is
the number of bytes taken up. -/
structure Accounts (b : Builder) (requests : List Request) (bytes : Nat) : Prop where
  sound : b.Sound
  size_eq : b.nodes.size = requests.length + 1
  offset_eq : b.offset.toNat = bytes
  root : b.Meets rootId ⟨.document, "", false⟩
  meets : ∀ {i : Nat} {r : Request}, requests[i]? = some r → b.Meets (UInt32.ofNat (i + 1)) r

namespace Accounts

/-- In the beginning there is the root, and nothing has been asked for. -/
theorem start (path : Path) (dialect : Dialect) : (Builder.start path dialect).Accounts [] 0 where
  sound := .start path dialect
  size_eq := rfl
  offset_eq := rfl
  root := ⟨_, rfl, rfl, rfl, fun hleaf => by cases hleaf⟩
  meets := by
    intro i r hr
    cases hr

variable {requests : List Request} {bytes : Nat} (h : b.Accounts requests bytes)

include h

/-- One node more, after the others. -/
theorem meets_concat {after : Builder} {last : Request} (hkeeps : b.Keeps after)
    (hlast : after.Meets b.nextId last) {i : Nat} {r : Request}
    (hr : (requests ++ [last])[i]? = some r) : after.Meets (UInt32.ofNat (i + 1)) r := by
  rw [List.getElem?_append] at hr
  by_cases hi : i < requests.length
  · rw [if_pos hi] at hr
    exact (h.meets hr).keep hkeeps
  · rw [if_neg hi, List.getElem?_singleton] at hr
    split at hr
    · have hnext : b.nextId = UInt32.ofNat (i + 1) := by
        rw [nextId, h.size_eq]
        congr 1
        omega
      rw [← hnext, ← Option.some.inj hr]
      exact hlast
    · cases hr

/-- A node that is opened is the one asked for, and takes up no bytes. -/
theorem openNode (hsize : requests.length + 1 < UInt32.size) (kind : NodeKind) (label : String) :
    (b.openNode kind label).Accounts (requests ++ [⟨kind, label, false⟩]) bytes := by
  rw [← h.size_eq] at hsize
  have hkeeps := keeps_openNode hsize kind label
  refine ⟨h.sound.openNode hsize kind label, ?_, h.offset_eq, h.root.keep hkeeps,
    h.meets_concat hkeeps ?_⟩
  · rw [List.length_append, List.length_singleton, ← h.size_eq]
    exact size_push
  · refine ⟨⟨kind, label, ⟨b.offset, b.offset⟩, some b.current, []⟩, ?_, rfl, rfl, ?_⟩
    · show (b.push kind label ⟨b.offset, b.offset⟩).document.node? b.nextId = _
      rw [node?_push hsize, if_pos rfl]
    · intro hleaf
      cases hleaf

/-- The offset moves on by the bytes, as long as these fit. -/
theorem toNat_offset_add {more : UInt32} (hbytes : bytes + more.toNat < UInt32.size) :
    (b.offset + more).toNat = bytes + more.toNat := by
  rw [UInt32.toNat_add, h.offset_eq]
  exact Nat.mod_eq_of_lt hbytes

/-- So it does not go back. -/
theorem offset_le_add {more : UInt32} (hbytes : bytes + more.toNat < UInt32.size) :
    b.offset ≤ b.offset + more := by
  rw [UInt32.le_iff_toNat_le, h.toNat_offset_add hbytes, h.offset_eq]
  exact Nat.le_add_right _ _

/-- Moving on takes up the bytes and asks for nothing. -/
theorem advance {more : UInt32} (hbytes : bytes + more.toNat < UInt32.size) :
    (b.advance more).Accounts requests (bytes + more.toNat) where
  sound := h.sound.advance (h.offset_le_add hbytes)
  size_eq := h.size_eq
  offset_eq := h.toNat_offset_add hbytes
  root := h.root.keep (keeps_advance more)
  meets := fun hr => (h.meets hr).keep (keeps_advance more)

/-- Closing asks for nothing and takes up nothing. -/
theorem close : b.close.Accounts requests bytes := by
  have hsize : b.close.nodes.size = b.nodes.size := by
    rw [Builder.close]
    cases b.stack with
    | nil => rfl
    | cons top rest => exact Array.size_modify
  have hoffset : b.close.offset = b.offset := by
    rw [Builder.close]
    cases b.stack <;> rfl
  refine ⟨h.sound.close, ?_, ?_, h.root.keep keeps_close,
    fun hr => (h.meets hr).keep keeps_close⟩
  · rw [hsize, h.size_eq]
  · rw [hoffset, h.offset_eq]

/-- A leaf is a node asked for and takes up the bytes of its text. -/
theorem leaf (hsize : requests.length + 1 < UInt32.size) (kind : NodeKind) (text : String)
    (hbytes : bytes + text.utf8ByteSize < UInt32.size) :
    (b.leaf kind text).Accounts (requests ++ [⟨kind, text, true⟩])
      (bytes + text.utf8ByteSize) := by
  have hlength : (UInt32.ofNat text.utf8ByteSize).toNat = text.utf8ByteSize :=
    UInt32.toNat_ofNat_of_lt' (by omega)
  rw [← hlength] at hbytes
  have hstop := h.toNat_offset_add hbytes
  rw [← h.size_eq] at hsize
  have heq := leaf_eq hsize kind text
  have hsound : (b.leaf kind text).Sound := by
    rw [heq]
    have hopen := h.openNode (h.size_eq ▸ hsize) kind text
    exact (hopen.advance hbytes).sound.close
  have hkeeps : b.Keeps (b.leaf kind text) := by
    rw [heq]
    exact ((keeps_openNode hsize kind text).followedBy (keeps_advance _)).followedBy keeps_close
  refine ⟨hsound, ?_, by rw [← hlength]; exact hstop, h.root.keep hkeeps,
    h.meets_concat hkeeps ?_⟩
  · rw [List.length_append, List.length_singleton, ← h.size_eq]
    exact size_push
  · refine ⟨⟨kind, text, ⟨b.offset, b.offset + UInt32.ofNat text.utf8ByteSize⟩, some b.current, []⟩,
      ?_, rfl, rfl, ?_⟩
    · show (b.push kind text
        ⟨b.offset, b.offset + UInt32.ofNat text.utf8ByteSize⟩).document.node? b.nextId = _
      rw [node?_push hsize, if_pos rfl]
    · intro _
      refine ⟨?_, rfl, ?_⟩
      · -- the stack is the one from before, where the new place is not
        intro hmem
        exact ne_nextId hsize (h.sound.isSome_of_mem_opened hmem) rfl
      · show b.offset.toNat + text.utf8ByteSize = (b.offset + UInt32.ofNat text.utf8ByteSize).toNat
        rw [hstop, hlength, h.offset_eq]

/-- A pair that stays open for its value. -/
theorem keyValue (key : String) (hsize : requests.length + 2 < UInt32.size)
    (hbytes : bytes + key.utf8ByteSize + 2 < UInt32.size) :
    (b.keyValue key).Accounts (requests ++ [⟨.keyValue, key, false⟩, ⟨.key, key, true⟩])
      (bytes + key.utf8ByteSize + 2) := by
  have hopen := h.openNode (by omega) .keyValue key
  have hkey := hopen.leaf (by rw [List.length_append, List.length_singleton]; omega) .key key
    (by omega)
  rw [List.append_assoc] at hkey
  exact hkey.advance hbytes

/-- **One step** adds what it asks for and takes up its bytes. -/
theorem step (s : Step) (hsize : requests.length + s.requests.length < UInt32.size)
    (hbytes : bytes + s.bytes < UInt32.size) :
    (b.step s).Accounts (requests ++ s.requests) (bytes + s.bytes) := by
  cases s with
  | «open» kind label => exact h.openNode hsize kind label
  | leaf kind text => exact h.leaf hsize kind text hbytes
  | close =>
    show b.close.Accounts (requests ++ []) (bytes + 0)
    rw [List.append_nil]
    exact h.close
  | advance more =>
    show (b.advance more).Accounts (requests ++ []) (bytes + more.toNat)
    rw [List.append_nil]
    exact h.advance hbytes
  | ident text => exact h.leaf hsize .identifier text hbytes
  | punct text => exact h.leaf hsize .punct text hbytes
  | space => exact h.leaf hsize .whitespace " " hbytes
  | string contents =>
    -- one byte for the quote on each side
    have hbytes : bytes + (contents.utf8ByteSize + 2) < UInt32.size := hbytes
    have hquote := h.advance (show bytes + (1 : UInt32).toNat < UInt32.size by
      rw [UInt32.toNat_one]; omega)
    have hleaf := hquote.leaf hsize .stringLiteral contents (by rw [UInt32.toNat_one]; omega)
    have hboth := hleaf.advance (show _ + (1 : UInt32).toNat < _ by rw [UInt32.toNat_one]; omega)
    have hsum : bytes + (1 : UInt32).toNat + contents.utf8ByteSize + (1 : UInt32).toNat
        = bytes + (contents.utf8ByteSize + 2) := by
      rw [UInt32.toNat_one]
      omega
    rw [hsum] at hboth
    exact hboth
  | keyValue key => exact h.keyValue key hsize hbytes
  | scalar raw => exact h.leaf hsize .scalar raw hbytes
  | scalarEntry key raw =>
    -- the pair with its `: `, the value and the end of the line
    have hsize : requests.length + 3 < UInt32.size := hsize
    have hbytes : bytes + (key.utf8ByteSize + raw.utf8ByteSize + 3) < UInt32.size := hbytes
    have hpair := h.keyValue key (by omega) (by omega)
    have hvalue := hpair.leaf (by rw [List.length_append]; exact hsize) .scalar raw (by omega)
    have hline := hvalue.advance (show _ + (1 : UInt32).toNat < _ by
      rw [UInt32.toNat_one]; omega)
    have hsum : bytes + key.utf8ByteSize + 2 + raw.utf8ByteSize + (1 : UInt32).toNat
        = bytes + (key.utf8ByteSize + raw.utf8ByteSize + 3) := by
      rw [UInt32.toNat_one]
      omega
    rw [hsum, List.append_assoc] at hline
    exact hline.close

/-- **A run** adds what its steps ask for and takes up their bytes. -/
theorem foldl_step (steps : List Step)
    (hsize : requests.length + (steps.flatMap Step.requests).length < UInt32.size)
    (hbytes : bytes + totalBytes steps < UInt32.size) :
    (steps.foldl Builder.step b).Accounts (requests ++ steps.flatMap Step.requests)
      (bytes + totalBytes steps) := by
  refine foldl_step_induction (P := fun done b =>
    b.Accounts (requests ++ done.flatMap Step.requests) (bytes + totalBytes done)) ?_ ?_
  · rw [List.flatMap_nil, List.append_nil]
    exact h
  · rintro done rest s rfl hdone
    -- the step has to fit beside what is there already
    rw [List.flatMap_append, List.length_append, List.flatMap_cons, List.length_append] at hsize
    rw [totalBytes_append, totalBytes] at hbytes
    have hstep := hdone.step s (by rw [List.length_append]; omega) (by omega)
    rw [List.append_assoc, Nat.add_assoc] at hstep
    rw [List.flatMap_append, List.flatMap_singleton, totalBytes_append]
    exact hstep

/-- Closing whatever is open. -/
theorem closeAll : b.closeAll.Accounts requests bytes :=
  closeAll_induction (P := fun b => b.Accounts requests bytes) (fun _ h => h.close) h

end Accounts

/-- Closing as often as there are open nodes leaves the root alone. -/
theorem stack_closeAll (b : Builder) : b.closeAll.stack = [] := by
  have hrun : ∀ (ids : List NodeId) (b : Builder),
      (ids.foldl (fun b _ => b.close) b).stack = b.stack.drop ids.length := by
    intro ids
    induction ids with
    | nil => exact fun b => rfl
    | cons id ids ih =>
      intro b
      rw [List.foldl_cons, ih, List.length_cons, close]
      cases hstack : b.stack with
      | nil => rw [hstack, List.drop_nil, List.drop_nil]
      | cons top rest => rw [List.drop_succ_cons]
  rw [closeAll, hrun, List.drop_length]

end Builder

/-! ## The finished document -/

/-- A tree: its links agree, each node but the root is listed once, by a parent before it and in
order, and spans run forward, inside the span of the parent and one after the other. -/
structure IsTree (d : Document) : Prop where
  accepted : d.linkDefect? = none
  listed : ∀ {id : NodeId}, (d.node? id).isSome = true → id ≠ rootId →
    ∃ p, d.parent? id = some p ∧ p < id ∧ ∀ q, (d.childrenOf q).count id = if q = p then 1 else 0
  increasing : ∀ id : NodeId, (d.childrenOf id).Pairwise (· < ·)
  forward : ∀ {id : NodeId}, (d.node? id).isSome = true →
    (d.spanOf id).start ≤ (d.spanOf id).stop
  inside : ∀ {id p : NodeId}, d.parent? id = some p →
    (d.spanOf p).start ≤ (d.spanOf id).start ∧ (d.spanOf id).stop ≤ (d.spanOf p).stop
  apart : ∀ id : NodeId,
    (d.childrenOf id).Pairwise fun a b => (d.spanOf a).stop ≤ (d.spanOf b).start

namespace Builder

variable {b : Builder}

/-- Finishing closes everything and lets the root end last. -/
theorem finish_eq (b : Builder) :
    b.finish = b.closeAll.document.respan rootId fun _ => ⟨0, b.closeAll.offset⟩ := rfl

namespace Sound

variable (h : b.Sound)

include h

/-- When nothing but the root is open, the ends that nodes have are the ends written down, the root
apart. -/
theorem spanOf_respan_root (hstack : b.stack = []) {id : NodeId}
    (hid : (b.document.node? id).isSome = true) :
    (b.document.respan rootId fun _ => ⟨0, b.offset⟩).spanOf id
      = ⟨(b.document.spanOf id).start, b.stopOf id⟩ := by
  have hopened : b.opened = [rootId] := by rw [opened, hstack, List.nil_append]
  rw [spanOf_respan _ _ _ hid]
  by_cases hroot : id = rootId
  · rw [if_pos hroot, hroot, h.spans.root_start, stopOf_of_mem b.rootId_mem_opened]
  · have hclosed : id ∉ b.opened := by
      rw [hopened, List.mem_singleton]
      exact hroot
    rw [if_neg hroot, stopOf_of_notMem hclosed]

/-- A builder of which only the root is open holds a tree, once the root ends at the offset. -/
theorem isTree_respan_root (hstack : b.stack = []) :
    (b.document.respan rootId fun _ => ⟨0, b.offset⟩).IsTree := by
  have hshape := h.shape.respan rootId fun _ => ⟨0, b.offset⟩
  have hspan : ∀ {id : NodeId}, (b.document.node? id).isSome = true →
      (b.document.respan rootId fun _ => ⟨0, b.offset⟩).spanOf id
        = ⟨(b.document.spanOf id).start, b.stopOf id⟩ := h.spanOf_respan_root hstack
  refine ⟨(linkDefect?_eq_none_iff hshape.size_le).mpr hshape.linked, ?_,
    hshape.pairwise_childrenOf, ?_, ?_, ?_⟩
  · intro id hid hne
    obtain ⟨p, hp, hlt⟩ := hshape.parent_lt hid hne
    exact ⟨p, hp, hlt, hshape.count_childrenOf hp⟩
  · intro id hid
    rw [isSome_node?_respan] at hid
    rw [hspan hid]
    exact h.spans.start_le hid
  · intro id p hp
    rw [parent?_respan] at hp
    rw [hspan (isSome_node?_of_parent? hp), hspan (h.shape.isSome_parent hp)]
    exact h.spans.inside hp
  · intro id
    refine (hshape.pairwise_childrenOf id).imp_of_mem ?_
    intro x y hx hy hxy
    rw [hshape.mem_childrenOf, parent?_respan] at hx hy
    rw [hspan (isSome_node?_of_parent? hx), hspan (isSome_node?_of_parent? hy)]
    exact h.spans.apart hx hy hxy

end Sound

/-- What was asked for is in the finished document. -/
theorem Accounts.exists_node_finish {requests : List Request} {bytes : Nat}
    (h : b.Accounts requests bytes) (hsize : requests.length + 1 < UInt32.size) {i : Nat}
    {r : Request} (hr : requests[i]? = some r) :
    ∃ node, b.finish.nodes[i + 1]? = some node ∧ node.kind = r.kind ∧ node.text = r.text
      ∧ (r.leaf = true → node.children = []
        ∧ node.span.start.toNat + r.text.utf8ByteSize = node.span.stop.toNat) := by
  have hi : i < requests.length := (List.getElem?_eq_some_iff.mp hr).1
  have hplace : (UInt32.ofNat (i + 1)).toNat = i + 1 := UInt32.toNat_ofNat_of_lt' (by omega)
  have hne : UInt32.ofNat (i + 1) ≠ rootId := by
    intro hroot
    have hzero : i + 1 = 0 := hplace.symm.trans (congrArg UInt32.toNat hroot)
    omega
  obtain ⟨node, hnode, hkind, htext, hleaf⟩ := h.closeAll.meets hr
  refine ⟨node, ?_, hkind, htext, fun hr => (hleaf hr).2⟩
  have hfinish : b.finish.node? (UInt32.ofNat (i + 1)) = some node := by
    rw [finish_eq, node?_respan, hnode, Option.map_some, if_neg hne]
  rw [node?, hplace] at hfinish
  exact hfinish

/-- Only an opened node can have a leaf kind without being a leaf. -/
theorem leaf_of_mem_requests {s : Step} {r : Request} (hr : r ∈ s.requests)
    (hopen : ∀ kind label, s = .open kind label → kind.isLeaf = false)
    (hkind : r.kind.isLeaf = true) : r.leaf = true := by
  cases s with
  | «open» kind label =>
    rw [List.mem_singleton.mp hr, hopen kind label rfl] at hkind
    cases hkind
  | keyValue key =>
    rcases List.mem_pair.mp hr with rfl | rfl
    · cases hkind
    · rfl
  | scalarEntry key raw =>
    rcases List.mem_cons.mp hr with rfl | hr
    · cases hkind
    · rcases List.mem_pair.mp hr with rfl | rfl
      all_goals rfl
  | close => exact absurd hr List.not_mem_nil
  | advance bytes => exact absurd hr List.not_mem_nil
  | leaf kind text => rw [List.mem_singleton.mp hr]
  | ident text => rw [List.mem_singleton.mp hr]
  | punct text => rw [List.mem_singleton.mp hr]
  | space => rw [List.mem_singleton.mp hr]
  | string contents => rw [List.mem_singleton.mp hr]
  | scalar raw => rw [List.mem_singleton.mp hr]

end Builder

section Build

variable (path : Path) (dialect : Dialect) {steps : List Builder.Step}

open Builder

/-- A run from the start accounts for just its own steps. -/
theorem accounts_build (hbytes : totalBytes steps < UInt32.size)
    (hnodes : (steps.flatMap Step.requests).length + 1 < UInt32.size) :
    (steps.foldl Builder.step (.start path dialect)).Accounts (steps.flatMap Step.requests)
      (totalBytes steps) := by
  have hrun := (Accounts.start path dialect).foldl_step steps
    (by rw [List.length_nil]; omega) (by omega)
  rw [List.nil_append, Nat.zero_add] at hrun
  exact hrun

/-- The finished document stands in preorder. -/
theorem preorder_build (hbytes : totalBytes steps < UInt32.size)
    (hnodes : (steps.flatMap Step.requests).length + 1 < UInt32.size) :
    (build path dialect steps).Preorder := by
  rw [build, finish_eq]
  exact (accounts_build path dialect hbytes hnodes).closeAll.sound.shape.respan _ _

/-- If steps open no node of a leaf kind, no leaf has children. -/
theorem childrenOf_leaf_build (hbytes : totalBytes steps < UInt32.size)
    (hnodes : (steps.flatMap Step.requests).length + 1 < UInt32.size)
    (hopen : ∀ kind label, Step.open kind label ∈ steps → kind.isLeaf = false) {id : NodeId}
    (hid : (build path dialect steps).isLeaf id = true) :
    (build path dialect steps).childrenOf id = [] := by
  have haccounts := accounts_build path dialect hbytes hnodes
  cases hnode : (build path dialect steps).node? id with
  | none =>
    rw [childrenOf, hnode]
    rfl
  | some node =>
    have hkind : node.kind.isLeaf = true := by
      rw [isLeaf, hnode] at hid
      exact hid
    have hlt := lt_size_of_node? hnode
    have hsize : (build path dialect steps).nodes.size
        = (steps.flatMap Step.requests).length + 1 := by
      rw [build, finish_eq, size_respan]
      exact haccounts.closeAll.size_eq
    rw [childrenOf_eq hnode]
    by_cases hroot : id = rootId
    · -- the root is a document
      obtain ⟨root, hfound, hdocument, -⟩ := haccounts.closeAll.root
      rw [build, finish_eq, hroot, node?_respan, hfound, Option.map_some, if_pos rfl] at hnode
      rw [← Option.some.inj hnode, hdocument] at hkind
      cases hkind
    · obtain ⟨i, hi⟩ : ∃ i, id.toNat = i + 1 := by
        refine ⟨id.toNat - 1, ?_⟩
        have hne : id.toNat ≠ 0 := fun h => hroot (UInt32.toNat_inj.mp h)
        omega
      have hrange : i < (steps.flatMap Step.requests).length := by omega
      have hr := List.getElem?_eq_getElem hrange
      obtain ⟨found, hfound, hfoundKind, -, hleaf⟩ := haccounts.exists_node_finish hnodes hr
      have hsame : found = node := by
        rw [node?, hi] at hnode
        exact Option.some.inj (hfound.symm.trans hnode)
      rw [← hsame] at hkind ⊢
      rw [hfoundKind] at hkind
      obtain ⟨s, hs, hmem⟩ := List.mem_flatMap.mp (List.getElem_mem hrange)
      refine (hleaf (leaf_of_mem_requests hmem ?_ hkind)).1
      rintro kind label rfl
      exact hopen kind label hs

/-- **Every run of a builder leaves a tree behind.** However its opens and closes are balanced, as
long as its bytes and nodes can be counted, the finished document is a tree over the whole source; it
holds the nodes that were asked for in order, and those added as leaves have no children and are as
long as their text. If no node of a leaf kind was opened, the leaves are all nodes of such kinds,
each once and by increasing place. -/
theorem built_document_is_tree (hbytes : totalBytes steps < UInt32.size)
    (hnodes : (steps.flatMap Step.requests).length + 1 < UInt32.size) :
    let d := build path dialect steps
    d.IsTree
      ∧ d.nodes.size = (steps.flatMap Step.requests).length + 1
      ∧ d.spanOf rootId = ⟨0, UInt32.ofNat (totalBytes steps)⟩
      ∧ (∀ (i : Nat) (r : Request), (steps.flatMap Step.requests)[i]? = some r →
        ∃ node, d.nodes[i + 1]? = some node ∧ node.kind = r.kind ∧ node.text = r.text
          ∧ (r.leaf = true → node.children = []
            ∧ node.span.start.toNat + r.text.utf8ByteSize = node.span.stop.toNat))
      ∧ ((∀ kind label, Step.open kind label ∈ steps → kind.isLeaf = false) →
        d.leaves = d.ids.filter d.isLeaf) := by
  intro d
  have haccounts := accounts_build path dialect hbytes hnodes
  have hclosed := haccounts.closeAll
  have hd : d = _ := finish_eq (steps.foldl Builder.step (.start path dialect))
  refine ⟨?_, ?_, ?_, fun i r hr => haccounts.exists_node_finish hnodes hr, ?_⟩
  · rw [hd]
    exact hclosed.sound.isTree_respan_root (stack_closeAll _)
  · rw [hd, size_respan]
    exact hclosed.size_eq
  · have hroot := hclosed.sound.isSome_of_mem_opened (rootId_mem_opened _)
    rw [hd, spanOf_respan _ _ _ hroot, if_pos rfl, ← hclosed.offset_eq, UInt32.ofNat_toNat]
  · intro hopen
    exact (preorder_build path dialect hbytes hnodes).leaves_eq fun id hid =>
      childrenOf_leaf_build path dialect hbytes hnodes hopen hid

end Build

/-- A run that closes before anything is open, skips bytes and leaves a pair and a mapping open; the
text of the value takes two bytes. -/
theorem built_document_is_tree_unbalanced :
    let steps : List Builder.Step := [.close, .keyValue "services", .open .mapping "",
      .scalarEntry "class" "é", .advance 4, .leaf .text "#"]
    let d := build ⟨"services.yaml"⟩ .config steps
    d.IsTree ∧ d.spanOf rootId = ⟨0, 25⟩ ∧ d.leaves = [2, 5, 6, 7] := by
  intro steps d
  obtain ⟨htree, -, hspan, -, hleaves⟩ :=
    @built_document_is_tree ⟨"services.yaml"⟩ .config steps (by decide +kernel) (by decide +kernel)
  have hopen : ∀ kind label, Builder.Step.open kind label ∈ steps → kind.isLeaf = false := by
    intro kind label hmem
    simp only [steps, List.mem_cons, Builder.Step.open.injEq, reduceCtorEq, false_or, or_false,
      List.not_mem_nil] at hmem
    rw [hmem.1]
    rfl
  refine ⟨htree, hspan.trans (by decide +kernel), (hleaves hopen).trans ?_⟩
  decide +kernel

end Signpost.Document
