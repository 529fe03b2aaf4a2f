/-
`Proofs/Document/Caret.lean` -- the leaf under a caret.

The way down to a caret goes to the first child around it and never turns back. In a tree that is no
loss: siblings follow each other, so no two of them are around one offset, and a parent is around
whatever its children are around. So every way down ends at the leaf around the offset if there is
one, and the end of a way down is around the offset unless nothing below the root is. For the same
reason the leaves follow each other as siblings do, `pairwise_leaves`.

In a document that is built there is more to say about the offsets without a leaf. Every step comes
down to opening, closing, adding a leaf and skipping bytes, `Step.parts`; when bytes are skipped the
leaves that are there end before them, and those that come start after them.
-/
import Signpost.Project.Goto
import Signpost.Project.Overlay
import Signpost.Proofs.Document.Builder

set_option autoImplicit false

namespace Signpost

/-- A span includes its start and not its end. -/
theorem Span.contains_iff {s : Span} {offset : UInt32} :
    s.contains offset = true ↔ s.start ≤ offset ∧ offset < s.stop := by
  unfold Span.contains
  rw [Bool.and_eq_true, decide_eq_true_eq, decide_eq_true_eq]

namespace Document

variable {d : Document}

/-- A leaf is in the row. -/
theorem isSome_node?_of_isLeaf {id : NodeId} (h : d.isLeaf id = true) :
    (d.node? id).isSome = true := by
  rw [isLeaf, Option.any_eq_true] at h
  obtain ⟨node, hnode, -⟩ := h
  rw [hnode]
  rfl

/-! ## The way down in a tree -/

namespace IsTree

variable (h : d.IsTree) {offset : UInt32}

include h

/-- A node spans what is below it. -/
theorem inside_of_below {top low : NodeId} {levels : Nat} (hlow : d.Below top levels low) :
    (d.spanOf top).start ≤ (d.spanOf low).start ∧ (d.spanOf low).stop ≤ (d.spanOf top).stop := by
  induction hlow with
  | here => exact ⟨UInt32.le_refl _, UInt32.le_refl _⟩
  | child _ hlisted ih =>
    have hinside := h.inside ((linked_of_linkDefect? h.accepted).back hlisted)
    exact ⟨UInt32.le_trans ih.1 hinside.1, UInt32.le_trans hinside.2 ih.2⟩

/-- Spans lie inside each other, so what is around an offset has its ancestors around it. -/
theorem contains_of_below {top low : NodeId} {levels : Nat} (hlow : d.Below top levels low)
    (hcontains : (d.spanOf low).contains offset = true) :
    (d.spanOf top).contains offset = true := by
  have hinside := h.inside_of_below hlow
  rw [Span.contains_iff] at hcontains ⊢
  refine ⟨UInt32.le_trans hinside.1 hcontains.1, ?_⟩
  exact UInt32.lt_of_lt_of_le hcontains.2 hinside.2

/-- **Leaves follow each other as siblings do**: each ends before the ones after it start. -/
theorem pairwise_leavesBelow (room : Nat) (id : NodeId) :
    (d.leavesBelow room id).Pairwise fun a b => (d.spanOf a).stop ≤ (d.spanOf b).start := by
  induction room generalizing id with
  | zero => exact List.Pairwise.nil
  | succ room ih =>
    rw [leavesBelow]
    by_cases hleaf : d.isLeaf id = true
    · rw [if_pos hleaf]
      exact List.pairwise_singleton _ _
    · rw [if_neg hleaf, List.pairwise_flatMap]
      refine ⟨fun child _ => ih child, (h.apart id).imp ?_⟩
      -- what is below a child keeps to the child's span, and so to its side of the next one's
      intro a b hab x hx y hy
      obtain ⟨-, _, hxbelow⟩ := Preorder.below_of_mem_leavesBelow hx
      obtain ⟨-, _, hybelow⟩ := Preorder.below_of_mem_leavesBelow hy
      calc (d.spanOf x).stop
          ≤ (d.spanOf a).stop := (h.inside_of_below hxbelow).2
        _ ≤ (d.spanOf b).start := hab
        _ ≤ (d.spanOf y).start := (h.inside_of_below hybelow).1

/-- The leaves of a tree follow each other without overlap. -/
theorem pairwise_leaves :
    d.leaves.Pairwise fun a b => (d.spanOf a).stop ≤ (d.spanOf b).start := by
  rw [leaves, (linked_of_linkDefect? h.accepted).root?_eq]
  exact h.pairwise_leavesBelow _ _

/-- **Whichever child is around an offset is the first one that is.** A child before it ends before
it starts. -/
theorem childAround?_eq_some_iff {id child : NodeId} :
    d.childAround? offset id = some child
      ↔ child ∈ d.childrenOf id ∧ (d.spanOf child).contains offset = true := by
  constructor
  · intro hfound
    unfold childAround? at hfound
    exact ⟨List.mem_of_find?_eq_some hfound, by simpa using List.find?_some hfound⟩
  · rintro ⟨hchild, hcontains⟩
    obtain ⟨before, after, hrow⟩ := List.append_of_mem hchild
    have hapart := h.apart id
    rw [hrow, List.pairwise_append] at hapart
    unfold childAround?
    rw [List.find?_eq_some_iff_append]
    refine ⟨hcontains, before, after, hrow, ?_⟩
    intro earlier hearlier
    have hstop := hapart.2.2 earlier hearlier child List.mem_cons_self
    have hstart := (Span.contains_iff.mp hcontains).1
    rw [Bool.not_eq_true', ← Bool.not_eq_true, Span.contains_iff, not_and, UInt32.not_lt]
    exact fun _ => UInt32.le_trans hstop hstart

/-- The end of a way down is below its start, and around the offset unless it is the start. -/
theorem below_of_descentEnds {steps : Nat} {id last : NodeId}
    (hends : d.DescentEnds offset steps id last) :
    (∃ levels, d.Below id levels last)
      ∧ (last = id ∨ (d.spanOf last).contains offset = true) := by
  induction hends with
  | stop _ => exact ⟨⟨0, .here⟩, .inl rfl⟩
  | step hchild _ ih =>
    obtain ⟨hlisted, hcontains⟩ := h.childAround?_eq_some_iff.mp hchild
    obtain ⟨⟨levels, hbelow⟩, hlast⟩ := ih
    refine ⟨⟨1 + levels, Below.append (.child .here hlisted) hbelow⟩, .inr ?_⟩
    rcases hlast with rfl | hlast
    · exact hcontains
    · exact hlast

/-- **Every way down ends at a childless node around the offset**, if there is one below. -/
theorem eq_of_descentEnds {steps levels : Nat} {id last low : NodeId}
    (hends : d.DescentEnds offset steps id last) (hlow : d.Below id levels low)
    (hbare : d.childrenOf low = []) (hcontains : (d.spanOf low).contains offset = true) :
    last = low := by
  -- both ways start at the same node, and their first steps lead to the same child
  induction hends generalizing levels with
  | stop hnone =>
    cases levels with
    | zero =>
      cases hlow
      rfl
    | succ levels =>
      obtain ⟨child, hlisted, hbelow⟩ := Preorder.exists_child_of_below hlow
      have haround := h.childAround?_eq_some_iff.mpr
        ⟨hlisted, h.contains_of_below hbelow hcontains⟩
      rw [hnone] at haround
      cases haround
  | step hchild _ ih =>
    cases levels with
    | zero =>
      cases hlow
      have hlisted := (h.childAround?_eq_some_iff.mp hchild).1
      rw [hbare] at hlisted
      exact absurd hlisted List.not_mem_nil
    | succ levels =>
      obtain ⟨child, hlisted, hbelow⟩ := Preorder.exists_child_of_below hlow
      have haround := h.childAround?_eq_some_iff.mpr
        ⟨hlisted, h.contains_of_below hbelow hcontains⟩
      rw [hchild] at haround
      obtain rfl := Option.some.inj haround
      exact ih hbelow

/-- **The leaf under a caret is the leaf around it.** -/
theorem tokenAt?_eq_some_iff (hbare : ∀ id, d.isLeaf id = true → d.childrenOf id = [])
    (hroot : d.isLeaf rootId = false) {t : NodeId} :
    d.tokenAt? offset = some t ↔ t ∈ d.leaves ∧ (d.spanOf t).contains offset = true := by
  have hlinked := linked_of_linkDefect? h.accepted
  have hleaves : d.leaves = d.leavesBelow d.nodes.size rootId := by
    rw [leaves, hlinked.root?_eq]
  have htoken : d.tokenAt? offset = some t ↔
      d.descend offset d.nodes.size rootId = t ∧ d.isLeaf t = true := by
    rw [tokenAt?, hlinked.root?_eq, Option.bind_some]
    by_cases hleaf : d.isLeaf (d.descend offset d.nodes.size rootId) = true
    · simp only [hleaf, if_true, Option.some.injEq]
      exact ⟨fun heq => ⟨heq, heq ▸ hleaf⟩, fun heq => heq.1⟩
    · simp only [hleaf, Bool.false_eq_true, if_false, reduceCtorEq, false_iff, not_and]
      rintro rfl
      exact hleaf
  obtain ⟨steps, -, hends⟩ := hlinked.descentEnds_descend offset .here (Nat.le_add_left _ 0)
  rw [htoken, hleaves]
  constructor
  · rintro ⟨rfl, hleaf⟩
    obtain ⟨⟨levels, hbelow⟩, hlast⟩ := h.below_of_descentEnds hends
    refine ⟨Preorder.mem_leavesBelow hbare hleaf hbelow (hlinked.levels_lt_size hbelow), ?_⟩
    refine hlast.resolve_left fun hsame => ?_
    rw [hsame, hroot] at hleaf
    cases hleaf
  · rintro ⟨hmem, hcontains⟩
    obtain ⟨hleaf, levels, hbelow⟩ := Preorder.below_of_mem_leavesBelow hmem
    exact ⟨h.eq_of_descentEnds hends hbelow (hbare t hleaf) hcontains, hleaf⟩

end IsTree

/-! ## Bytes that are skipped -/

namespace Builder

/-- What a step comes down to: opening and closing, leaves, and bytes that are skipped. -/
def Step.parts : Step → List Step
  | .ident text => [.leaf .identifier text]
  | .punct text => [.leaf .punct text]
  | .space => [.leaf .whitespace " "]
  | .string contents => [.advance 1, .leaf .stringLiteral contents, .advance 1]
  | .keyValue key => [.open .keyValue key, .leaf .key key, .advance 2]
  | .scalar raw => [.leaf .scalar raw]
  | .scalarEntry key raw =>
    [.open .keyValue key, .leaf .key key, .advance 2, .leaf .scalar raw, .advance 1, .close]
  | s => [s]

/-- The byte at an offset is one that the steps skip. -/
def Skipped (steps : List Step) (offset : Nat) : Prop :=
  ∃ before bytes after, steps.flatMap Step.parts = before ++ .advance bytes :: after
    ∧ totalBytes before ≤ offset ∧ offset < totalBytes before + bytes.toNat

/-- A step does what its parts do one after the other. -/
theorem foldl_parts (b : Builder) (s : Step) : s.parts.foldl step b = b.step s := by
  cases s <;> rfl

/-- It asks for the nodes that they ask for. -/
theorem requests_parts (s : Step) : s.parts.flatMap Step.requests = s.requests := by
  cases s <;> rfl

/-- The steps that others come down to. -/
inductive Step.IsPart : Step → Prop
  | opening (kind : NodeKind) (label : String) : IsPart (.open kind label)
  | leaf (kind : NodeKind) (text : String) : IsPart (.leaf kind text)
  | close : IsPart .close
  | advance (bytes : UInt32) : IsPart (.advance bytes)

/-- Parts are not taken apart any further. -/
theorem isPart_of_mem_parts {s : Step} : ∀ part ∈ s.parts, part.IsPart := by
  cases s <;> simp [Step.parts, Step.IsPart.opening, Step.IsPart.leaf, Step.IsPart.close,
    Step.IsPart.advance]

/-- A step takes up as many bytes as its parts together. -/
theorem totalBytes_parts (s : Step) : totalBytes s.parts = s.bytes := by
  have htwo : (2 : UInt32).toNat = 2 := rfl
  have hblank : " ".utf8ByteSize = 1 := by decide
  cases s <;> simp only [Step.parts, totalBytes, Step.bytes, UInt32.toNat_one, htwo, hblank] <;>
    omega

/-- Taking the steps apart changes nothing about the document. -/
theorem build_parts (path : Path) (dialect : Dialect) (steps : List Step) :
    build path dialect (steps.flatMap Step.parts) = build path dialect steps := by
  unfold build
  simp only [List.foldl_flatMap, foldl_parts]

/-- Taking the steps apart changes nothing about what is asked for. -/
theorem requests_flatMap_parts (steps : List Step) :
    (steps.flatMap Step.parts).flatMap Step.requests = steps.flatMap Step.requests := by
  simp only [List.flatMap_assoc, requests_parts]

/-- Nor does it change how many bytes are taken up. -/
theorem totalBytes_flatMap_parts (steps : List Step) :
    totalBytes (steps.flatMap Step.parts) = totalBytes steps := by
  induction steps with
  | nil => rfl
  | cons s steps ih => rw [List.flatMap_cons, totalBytes_append, totalBytes_parts, ih, totalBytes]

/-- Only what is opened as such is opened with a kind of the caller's choice. -/
theorem isLeaf_of_open_mem_parts {steps : List Step}
    (hopen : ∀ kind label, Step.open kind label ∈ steps → kind.isLeaf = false) {kind : NodeKind}
    {label : String} (hmem : Step.open kind label ∈ steps.flatMap Step.parts) :
    kind.isLeaf = false := by
  obtain ⟨s, hs, hpart⟩ := List.mem_flatMap.mp hmem
  cases s <;> simp only [Step.parts, List.mem_cons, List.not_mem_nil, or_false, reduceCtorEq,
    Step.open.injEq] at hpart
  · obtain ⟨rfl, rfl⟩ := hpart
    exact hopen kind label hs
  all_goals
    rw [hpart.1]
    rfl

/-- Bytes that have been passed and that no leaf takes up; and no leaf is open, so that none will
stretch over them. -/
structure Spares (b : Builder) (bytes : Nat → Prop) : Prop where
  passed : ∀ {i : Nat}, bytes i → i < b.offset.toNat
  spared : ∀ {id : NodeId} {node : Node}, b.document.node? id = some node →
    node.kind.isLeaf = true → id ∉ b.opened
      ∧ ∀ i, bytes i → ¬ (node.span.start.toNat ≤ i ∧ i < node.span.stop.toNat)

namespace Spares

variable {b : Builder} {bytes : Nat → Prop}

/-- In the beginning nothing has been passed, and the root is no leaf. -/
theorem start (path : Path) (dialect : Dialect) :
    (Builder.start path dialect).Spares fun _ => False where
  passed := False.elim
  spared := by
    intro id node hnode hleaf
    refine absurd hleaf ?_
    have hzero : id.toNat = 0 := by
      have hlt : id.toNat < 1 := lt_size_of_node? hnode
      omega
    have hkind : node.kind = .document := by
      rw [node?, hzero] at hnode
      rw [← Option.some.inj hnode]
      rfl
    rw [hkind]
    exact Bool.false_ne_true

variable (h : b.Spares bytes)

include h

/-- Fewer bytes are spared more easily. -/
theorem mono {fewer : Nat → Prop} (hfewer : ∀ i, fewer i → bytes i) : b.Spares fewer where
  passed := fun hi => h.passed (hfewer _ hi)
  spared := by
    intro id node hnode hleaf
    obtain ⟨hclosed, hspan⟩ := h.spared hnode hleaf
    exact ⟨hclosed, fun i hi => hspan i (hfewer i hi)⟩

/-- What a builder keeps is spared as before, so only new leaves have to be looked at. -/
theorem keep {after : Builder} (hkeeps : b.Keeps after) (hoffset : b.offset ≤ after.offset)
    (hnew : ∀ {id : NodeId} {node : Node}, b.document.node? id = none →
      after.document.node? id = some node → node.kind.isLeaf = true →
      id ∉ after.opened ∧ b.offset ≤ node.span.start) : after.Spares bytes := by
  rw [UInt32.le_iff_toNat_le] at hoffset
  refine ⟨fun hi => Nat.lt_of_lt_of_le (h.passed hi) hoffset, ?_⟩
  intro id node hnode hleaf
  cases hbefore : b.document.node? id with
  | none =>
    obtain ⟨hclosed, hstart⟩ := hnew hbefore hnode hleaf
    rw [UInt32.le_iff_toNat_le] at hstart
    refine ⟨hclosed, ?_⟩
    rintro i hi ⟨hle, -⟩
    have hpassed := h.passed hi
    omega
  | some before =>
    obtain ⟨kept, hkept, hkind, -, hsame⟩ := hkeeps hbefore
    obtain rfl : kept = node := Option.some.inj (hkept.symm.trans hnode)
    obtain ⟨hclosed, hspan⟩ := h.spared hbefore (hkind ▸ hleaf)
    obtain ⟨rfl, hafter⟩ := hsame hclosed
    exact ⟨hafter, hspan⟩

/-- Opening a node that is no leaf adds no leaf. -/
theorem openNode (hsize : b.nodes.size < UInt32.size) {kind : NodeKind} (label : String)
    (hkind : kind.isLeaf = false) : (b.openNode kind label).Spares bytes := by
  refine h.keep (keeps_openNode hsize kind label) (UInt32.le_refl _) ?_
  intro id node hnone hnode hleaf
  have hpush : (b.push kind label ⟨b.offset, b.offset⟩).document.node? id = some node := hnode
  rw [node?_push hsize, hnone] at hpush
  split at hpush
  · rw [← Option.some.inj hpush, hkind] at hleaf
    cases hleaf
  · cases hpush

/-- Closing adds no node, and the end that it writes down is not that of a leaf. -/
theorem close : b.close.Spares bytes := by
  have hoffset : b.close.offset = b.offset := by
    unfold Builder.close
    cases b.stack <;> rfl
  refine h.keep keeps_close (hoffset ▸ UInt32.le_refl _) ?_
  intro id node hnone hnode
  -- closing adds no node
  have hsame : (b.close.document.node? id).isSome = (b.document.node? id).isSome := by
    cases hstack : b.stack with
    | nil => rw [Builder.close, hstack]
    | cons top rest => rw [document_close hstack, isSome_node?_respan]
  rw [hnode, hnone] at hsame
  cases hsame

theorem closeAll : b.closeAll.Spares bytes :=
  closeAll_induction (P := fun b => b.Spares bytes) (fun _ h => h.close) h

section Accounts

variable {requests : List Request} {count : Nat} (haccounts : b.Accounts requests count)

include haccounts

/-- A new leaf starts where the builder is. -/
theorem leaf (hsize : b.nodes.size < UInt32.size) (kind : NodeKind) (text : String)
    (hbytes : count + text.utf8ByteSize < UInt32.size) : (b.leaf kind text).Spares bytes := by
  have hlength : (UInt32.ofNat text.utf8ByteSize).toNat = text.utf8ByteSize :=
    UInt32.toNat_ofNat_of_lt' (by omega)
  have hkeeps : b.Keeps (b.leaf kind text) := by
    rw [leaf_eq hsize]
    exact ((keeps_openNode hsize kind text).followedBy (keeps_advance _)).followedBy keeps_close
  refine h.keep hkeeps (haccounts.offset_le_add (by rw [hlength]; exact hbytes)) ?_
  intro id node hnone hnode _
  have hpush : (b.push kind text
      ⟨b.offset, b.offset + UInt32.ofNat text.utf8ByteSize⟩).document.node? id = some node := hnode
  rw [node?_push hsize, hnone] at hpush
  split at hpush
  · refine ⟨?_, ?_⟩
    · -- the open nodes are those from before
      intro hopened
      have hsome := haccounts.sound.isSome_of_mem_opened (show id ∈ b.opened from hopened)
      rw [hnone] at hsome
      cases hsome
    · rw [← Option.some.inj hpush]
      exact UInt32.le_refl _
  · cases hpush

/-- **Skipped bytes are spared.** The leaves that are there end before them. -/
theorem advance {more : UInt32} (hbytes : count + more.toNat < UInt32.size) :
    (b.advance more).Spares fun i =>
      bytes i ∨ (count ≤ i ∧ i < count + more.toNat) := by
  have hoffset : (b.advance more).offset.toNat = count + more.toNat :=
    haccounts.toNat_offset_add hbytes
  refine ⟨?_, ?_⟩
  · rintro i (hi | ⟨-, hi⟩)
    · have hpassed := h.passed hi
      rw [haccounts.offset_eq] at hpassed
      omega
    · rw [hoffset]
      exact hi
  · intro id node hnode hleaf
    have hnode : b.document.node? id = some node := hnode
    obtain ⟨hclosed, hspan⟩ := h.spared hnode hleaf
    refine ⟨hclosed, ?_⟩
    rintro i (hi | ⟨hle, -⟩)
    · exact hspan i hi
    · have hstop := haccounts.sound.spans.stop_le (show (b.document.node? id).isSome = true by
        rw [hnode]; rfl)
      rw [stopOf_of_notMem hclosed, spanOf, hnode, UInt32.le_iff_toNat_le,
        haccounts.offset_eq] at hstop
      have hstop : node.span.stop.toNat ≤ count := hstop
      omega

/-- **One step** leaves spared bytes alone. -/
theorem step {s : Step} (hs : s.IsPart)
    (hsize : requests.length + s.requests.length < UInt32.size)
    (hbytes : count + s.bytes < UInt32.size)
    (hopen : ∀ kind label, s = .open kind label → kind.isLeaf = false) :
    (b.step s).Spares bytes := by
  cases hs with
  | opening kind label =>
    refine h.openNode ?_ label (hopen kind label rfl)
    rw [haccounts.size_eq]
    exact hsize
  | leaf kind text =>
    refine h.leaf haccounts ?_ kind text hbytes
    rw [haccounts.size_eq]
    exact hsize
  | close => exact h.close
  | advance more => exact (h.advance haccounts hbytes).mono fun _ => .inl

/-- **A run** leaves spared bytes alone. -/
theorem foldl_step {steps : List Step} (hsteps : ∀ s ∈ steps, s.IsPart)
    (hsize : requests.length + (steps.flatMap Step.requests).length < UInt32.size)
    (hbytes : count + totalBytes steps < UInt32.size)
    (hopen : ∀ kind label, Step.open kind label ∈ steps → kind.isLeaf = false) :
    (steps.foldl Builder.step b).Spares bytes := by
  refine foldl_step_induction (P := fun _ b => b.Spares bytes) h ?_
  rintro done rest s rfl hdone
  rw [List.flatMap_append, List.length_append, List.flatMap_cons, List.length_append] at hsize
  rw [totalBytes_append, totalBytes] at hbytes
  have hmem : s ∈ done ++ s :: rest := List.mem_append_right done List.mem_cons_self
  have hopened : ∀ kind label, s = .open kind label → kind.isLeaf = false :=
    fun kind label hs => hopen kind label (hs ▸ hmem)
  have hthere := haccounts.foldl_step done (by omega) (by omega)
  exact hdone.step hthere (hsteps s hmem) (by rw [List.length_append]; omega) (by omega) hopened

end Accounts

end Spares

end Builder

/-! ## Carets in documents that are built -/

section Build

open Builder

variable (path : Path) (dialect : Dialect) {steps : List Step} {offset : UInt32}

/-- Bytes that are skipped on the way are spared at its end. -/
theorem spares_advance {before after : List Step} {bytes : UInt32}
    (hparts : ∀ s ∈ before ++ .advance bytes :: after, s.IsPart)
    (hbytes : totalBytes (before ++ .advance bytes :: after) < UInt32.size)
    (hnodes : ((before ++ .advance bytes :: after).flatMap Step.requests).length + 1 < UInt32.size)
    (hopen : ∀ kind label, Step.open kind label ∈ before ++ .advance bytes :: after →
      kind.isLeaf = false) :
    ((before ++ .advance bytes :: after).foldl Builder.step (.start path dialect)).Spares
      fun i => totalBytes before ≤ i ∧ i < totalBytes before + bytes.toNat := by
  have hskip : (Step.advance bytes).bytes = bytes.toNat := rfl
  rw [totalBytes_append, totalBytes, hskip] at hbytes
  rw [List.flatMap_append, List.length_append, List.flatMap_cons, List.length_append] at hnodes
  rw [List.forall_mem_append, List.forall_mem_cons] at hparts
  have haccounts : (before.foldl Builder.step (.start path dialect)).Accounts
      (before.flatMap Step.requests) (totalBytes before) := by
    apply accounts_build <;> omega
  have hbefore := (Spares.start path dialect).foldl_step (.start path dialect) hparts.1
    (by rw [List.length_nil]; omega) (by omega)
    fun kind label hmem => hopen kind label (List.mem_append_left _ hmem)
  have hfits : totalBytes before + bytes.toNat < UInt32.size := by omega
  have hskipped := (hbefore.advance haccounts hfits).mono fun _ => .inr
  rw [List.foldl_append, List.foldl_cons]
  refine hskipped.foldl_step (haccounts.advance hfits) hparts.2.2 (by omega) (by omega) ?_
  intro kind label hmem
  exact hopen kind label (List.mem_append_right _ (List.mem_cons_of_mem _ hmem))

variable (hbytes : totalBytes steps < UInt32.size)
  (hnodes : (steps.flatMap Step.requests).length + 1 < UInt32.size)

include hbytes hnodes

/-- The finished document is a tree. -/
theorem isTree_build : (build path dialect steps).IsTree := by
  rw [build, finish_eq]
  have hclosed := (accounts_build path dialect hbytes hnodes).closeAll
  exact hclosed.sound.isTree_respan_root (stack_closeAll _)

/-- Its root is no leaf, so a caret beside everything finds nothing. -/
theorem isLeaf_root_build : (build path dialect steps).isLeaf rootId = false := by
  obtain ⟨root, hroot, hkind, -⟩ := (accounts_build path dialect hbytes hnodes).closeAll.root
  rw [build, finish_eq, isLeaf, node?_respan, hroot, Option.map_some, if_pos rfl, Option.any_some,
    hkind]
  rfl

variable (hopen : ∀ kind label, Step.open kind label ∈ steps → kind.isLeaf = false)

include hopen

/-- What is listed as a leaf is one. -/
theorem mem_leaves_build {t : NodeId} (ht : t ∈ (build path dialect steps).leaves) :
    (build path dialect steps).isLeaf t = true := by
  rw [(preorder_build path dialect hbytes hnodes).leaves_eq fun _ =>
    childrenOf_leaf_build path dialect hbytes hnodes hopen] at ht
  exact (List.mem_filter.mp ht).2

/-- Every leaf is listed. -/
theorem mem_leaves_build_of_isLeaf {t : NodeId} (ht : (build path dialect steps).isLeaf t = true) :
    t ∈ (build path dialect steps).leaves := by
  have hpreorder := preorder_build path dialect hbytes hnodes
  rw [hpreorder.leaves_eq fun _ => childrenOf_leaf_build path dialect hbytes hnodes hopen,
    List.mem_filter, mem_ids hpreorder.size_le]
  exact ⟨isSome_node?.mp (isSome_node?_of_isLeaf ht), ht⟩

/-- No leaf is listed twice. -/
theorem nodup_leaves_build : (build path dialect steps).leaves.Nodup := by
  have hpreorder := preorder_build path dialect hbytes hnodes
  rw [hpreorder.leaves_eq fun _ => childrenOf_leaf_build path dialect hbytes hnodes hopen]
  apply List.Nodup.filter
  exact (pairwise_ids hpreorder.size_le).imp fun hlt => UInt32.ne_of_lt hlt

/-- The leaf under a caret is the leaf around it. -/
theorem tokenAt?_build_eq_some_iff {t : NodeId} :
    (build path dialect steps).tokenAt? offset = some t ↔ t ∈ (build path dialect steps).leaves
      ∧ ((build path dialect steps).spanOf t).contains offset = true := by
  apply (isTree_build path dialect hbytes hnodes).tokenAt?_eq_some_iff
  · exact fun _ => childrenOf_leaf_build path dialect hbytes hnodes hopen
  · exact isLeaf_root_build path dialect hbytes hnodes

/-- Where no leaf is around a caret, none is found. -/
theorem tokenAt?_build_eq_none (houtside : ∀ t ∈ (build path dialect steps).leaves,
    ((build path dialect steps).spanOf t).contains offset = false) :
    (build path dialect steps).tokenAt? offset = none := by
  rw [Option.eq_none_iff_forall_ne_some]
  intro t htoken
  rw [tokenAt?_build_eq_some_iff path dialect hbytes hnodes hopen] at htoken
  rw [houtside t htoken.1] at htoken
  cases htoken.2

/-- The leaves around an offset are all different, and all the one that is found. -/
theorem length_leaves_around_build :
    ((build path dialect steps).leaves.filter fun t =>
      ((build path dialect steps).spanOf t).contains offset).length ≤ 1 := by
  have hnodup := nodup_leaves_build path dialect hbytes hnodes hopen
  have hfound : ((build path dialect steps).leaves.filter fun t =>
      ((build path dialect steps).spanOf t).contains offset)
        ⊆ ((build path dialect steps).tokenAt? offset).toList := by
    intro t ht
    rw [Option.mem_toList, tokenAt?_build_eq_some_iff path dialect hbytes hnodes hopen]
    exact List.mem_filter.mp ht
  refine ((hnodup.filter _).subperm hfound).length_le.trans ?_
  cases (build path dialect steps).tokenAt? offset <;> simp

/-- No leaf of the finished document is around a byte that was skipped. -/
theorem contains_skipped_build (hskipped : Skipped steps offset.toNat) {id : NodeId}
    (hid : (build path dialect steps).isLeaf id = true) :
    ((build path dialect steps).spanOf id).contains offset = false := by
  have hne : id ≠ rootId := by
    rintro rfl
    rw [isLeaf_root_build path dialect hbytes hnodes] at hid
    cases hid
  obtain ⟨before, bytes, after, hparts, hrange⟩ := hskipped
  have hisPart : ∀ part ∈ steps.flatMap Step.parts, part.IsPart := by
    intro part hpart
    obtain ⟨s, -, hpart⟩ := List.mem_flatMap.mp hpart
    exact isPart_of_mem_parts part hpart
  have hclosed : ∀ kind label, Step.open kind label ∈ steps.flatMap Step.parts →
      kind.isLeaf = false := fun _ _ => isLeaf_of_open_mem_parts hopen
  rw [← totalBytes_flatMap_parts] at hbytes
  rw [← requests_flatMap_parts] at hnodes
  rw [← build_parts] at hid ⊢
  rw [hparts] at hbytes hnodes hisPart hclosed hid ⊢
  have hspares := (spares_advance path dialect hisPart hbytes hnodes hclosed).closeAll
  rw [build, finish_eq, isLeaf, Option.any_eq_true] at hid
  obtain ⟨node, hnode, hleaf⟩ := hid
  -- finishing changes the root alone, so the leaf is one of the builder's
  have hkept := hnode
  rw [node?_respan] at hkept
  obtain ⟨kept, hkept, heq⟩ := Option.map_eq_some_iff.mp hkept
  rw [if_neg hne] at heq
  have houtside := (hspares.spared hkept (heq ▸ hleaf)).2 _ hrange
  rw [build, finish_eq, spanOf, hnode, ← Bool.not_eq_true, Span.contains_iff,
    UInt32.le_iff_toNat_le, UInt32.lt_iff_toNat_lt]
  exact heq ▸ houtside

omit hbytes hnodes hopen

/-- **The leaf under a caret is the one leaf around it.** In a document that is built without
opening nodes of leaf kinds, a caret has a leaf just when some leaf is around it; there is at most
one, and none where bytes were skipped. What is asked at the caret is asked of that leaf. -/
theorem caret_finds_leaf_around (hbytes : totalBytes steps < UInt32.size)
    (hnodes : (steps.flatMap Step.requests).length + 1 < UInt32.size)
    (hopen : ∀ kind label, Step.open kind label ∈ steps → kind.isLeaf = false) (offset : UInt32) :
    let d := build path dialect steps
    (∀ t, d.tokenAt? offset = some t ↔ t ∈ d.leaves ∧ (d.spanOf t).contains offset = true)
      ∧ (d.leaves.filter fun t => (d.spanOf t).contains offset).length ≤ 1
      ∧ (Skipped steps offset.toNat → d.tokenAt? offset = none)
      ∧ ∀ p : Project,
        (∀ t ∈ d.leaves, (d.spanOf t).contains offset = true →
          p.gotoAt? d offset = p.goto? d t ∧ p.overlayAt? d offset = p.overlay? d t)
        ∧ ((∀ t ∈ d.leaves, (d.spanOf t).contains offset = false) →
          p.gotoAt? d offset = none ∧ p.overlayAt? d offset = none) := by
  intro d
  have hiff : ∀ t, d.tokenAt? offset = some t
      ↔ t ∈ d.leaves ∧ (d.spanOf t).contains offset = true := fun t =>
    tokenAt?_build_eq_some_iff path dialect hbytes hnodes hopen
  have hnone : (∀ t ∈ d.leaves, (d.spanOf t).contains offset = false) →
      d.tokenAt? offset = none := tokenAt?_build_eq_none path dialect hbytes hnodes hopen
  refine ⟨hiff, length_leaves_around_build path dialect hbytes hnodes hopen, ?_, ?_⟩
  · intro hskipped
    apply hnone
    intro t ht
    exact contains_skipped_build path dialect hbytes hnodes hopen hskipped
      (mem_leaves_build path dialect hbytes hnodes hopen ht)
  · intro p
    unfold Project.gotoAt? Project.overlayAt?
    refine ⟨?_, ?_⟩
    · intro t ht hcontains
      rw [(hiff t).mpr ⟨ht, hcontains⟩]
      exact ⟨rfl, rfl⟩
    · intro houtside
      rw [hnone houtside]
      exact ⟨rfl, rfl⟩

end Build

/-- A run that closes before anything is open and leaves a block open: its string takes two bytes
between its quotes, and two bytes are skipped after it. The caret finds the string on both of its
bytes, nothing on a quote and nothing where bytes were skipped. -/
theorem caret_finds_leaf_around_quoted :
    let steps : List Builder.Step := [.close, .open .printBlock "", .string "é", .advance 2,
      .ident "trans"]
    let d := build ⟨"base.html.twig"⟩ .template steps
    d.tokenAt? 2 = some 2 ∧ d.tokenAt? 3 = none ∧ d.tokenAt? 5 = none
      ∧ (d.leaves.filter fun t => (d.spanOf t).contains 6).length ≤ 1
      ∧ ∀ p : Project, p.gotoAt? d 2 = p.goto? d 2 ∧ p.overlayAt? d 5 = none := by
  intro steps d
  have hopen : ∀ kind label, Builder.Step.open kind label ∈ steps → kind.isLeaf = false := by
    intro kind label hmem
    simp only [steps, List.mem_cons, Builder.Step.open.injEq, reduceCtorEq, false_or, or_false,
      List.not_mem_nil] at hmem
    rw [hmem.1]
    rfl
  have hcaret := @caret_finds_leaf_around ⟨"base.html.twig"⟩ .template steps (by decide +kernel)
    (by decide +kernel) hopen
  obtain ⟨htoken, -, -, hasked⟩ := hcaret 2
  obtain ⟨-, -, hquote, -⟩ := hcaret 3
  obtain ⟨-, -, hskip, hnothing⟩ := hcaret 5
  have hleaves : d.leaves = [2, 3] := by decide +kernel
  have hleaf : 2 ∈ d.leaves ∧ (d.spanOf 2).contains 2 = true := by
    rw [hleaves]
    decide +kernel
  -- leaf by leaf: over all places this would be a search through four billion of them
  have houtside : ∀ t ∈ d.leaves, (d.spanOf t).contains 5 = false := by
    rw [hleaves, List.forall_mem_cons, List.forall_mem_singleton]
    exact ⟨by decide +kernel, by decide +kernel⟩
  refine ⟨(htoken 2).mpr hleaf, hquote ?_, hskip ?_, (hcaret 6).2.1, ?_⟩
  · exact ⟨[.close, .open .printBlock "", .advance 1, .leaf .stringLiteral "é"], 1,
      [.advance 2, .leaf .identifier "trans"], rfl, by decide, by decide⟩
  · exact ⟨[.close, .open .printBlock "", .advance 1, .leaf .stringLiteral "é", .advance 1], 2,
      [.leaf .identifier "trans"], rfl, by decide, by decide⟩
  · intro p
    exact ⟨((hasked p).1 2 hleaf.1 hleaf.2).1, ((hnothing p).2 houtside).2⟩

end Document

end Signpost
