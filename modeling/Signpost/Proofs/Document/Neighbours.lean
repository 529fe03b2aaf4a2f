/-
`Proofs/Document/Neighbours.lean` -- neighbours, seen from both sides.

Every step to a sibling looks a node up in the list of its parent, and each of the two nodes looks
up itself. That they agree is not in the steps but in the row: `Before` says by the lists of
children alone that one node stands before another, with which siblings between. It has two ends,
and the steps on and the steps back both read it off, the one from the left end and the other from
the right one. What is between matters to the search for the next node that is not whitespace: there
may be a run of whitespace of any length, and nothing else.

All this needs of a document is that it is `Orderly`.
-/
import Signpost.Proofs.Document.Siblings

set_option autoImplicit false

namespace Signpost.Document

variable {d : Document}

/-! ## One before the other -/

/-- Some node lists both, the one before the other, with the given siblings between them. -/
def Before (d : Document) (t : NodeId) (gap : List NodeId) (u : NodeId) : Prop :=
  ∃ lister before after, d.childrenOf lister = before ++ t :: (gap ++ u :: after)

/-- The one stands before the other, with nothing but whitespace between them. -/
def Neighbours (d : Document) (t u : NodeId) : Prop :=
  ∃ gap, d.Before t gap u ∧ ∀ b ∈ gap, d.isWhitespace b = true

/-- Going on step by step comes to an end by itself, and the answer is the first node on the way that
is not whitespace. -/
def WalkAnswers (d : Document) (next : NodeId → Option NodeId) (t : NodeId)
    (answer : Option NodeId) : Prop :=
  ∃ walk, FullChain next t walk ∧ answer = walk.find? (!d.isWhitespace ·)

namespace Orderly

variable (h : d.Orderly) {t u : NodeId} {gap : List NodeId}

include h

/-- A node stands in the row of whoever lists it. -/
theorem row_of_childrenOf {lister id : NodeId} {before after : List NodeId}
    (hlist : d.childrenOf lister = before ++ id :: after) : d.Row id before after := by
  refine ⟨lister, h.back ?_, hlist⟩
  rw [hlist]
  exact List.mem_append_right before List.mem_cons_self

/-- Seen from the left end: what comes after the node in its row starts with the gap and the other
one. -/
theorem before_iff_row_left :
    d.Before t gap u ↔ ∃ before after, d.Row t before (gap ++ u :: after) := by
  constructor
  · rintro ⟨lister, before, after, hlist⟩
    exact ⟨before, after, h.row_of_childrenOf hlist⟩
  · rintro ⟨before, after, lister, -, hlist⟩
    exact ⟨lister, before, after, hlist⟩

/-- Seen from the right end: what comes before it in its row ends with the other one and the gap. -/
theorem before_iff_row_right :
    d.Before t gap u ↔ ∃ before after, d.Row u (before ++ t :: gap) after := by
  constructor
  · rintro ⟨lister, before, after, hlist⟩
    have hright : d.childrenOf lister = before ++ t :: gap ++ u :: after := by
      rw [hlist, List.append_assoc, List.cons_append]
    exact ⟨before, after, h.row_of_childrenOf hright⟩
  · rintro ⟨before, after, lister, -, hlist⟩
    refine ⟨lister, before, after, ?_⟩
    rw [hlist, List.append_assoc, List.cons_append]

/-! ### Single steps -/

/-- The sibling just after a node is the one that it stands before without a gap. -/
theorem nextSibling?_eq_some_iff : d.nextSibling? t = some u ↔ d.Before t [] u := by
  rw [h.before_iff_row_left]
  constructor
  · intro hnext
    obtain ⟨before, after, hrow⟩ := exists_row_of_nextSibling? hnext
    rw [h.nextSibling?_eq hrow, List.head?_eq_some_iff] at hnext
    obtain ⟨rest, rfl⟩ := hnext
    exact ⟨before, rest, hrow⟩
  · rintro ⟨before, after, hrow⟩
    rw [h.nextSibling?_eq hrow]
    rfl

/-- The sibling just before a node is the one that stands before it without a gap. -/
theorem prevSibling?_eq_some_iff : d.prevSibling? u = some t ↔ d.Before t [] u := by
  rw [h.before_iff_row_right]
  constructor
  · intro hprev
    obtain ⟨before, after, hrow⟩ := exists_row_of_prevSibling? hprev
    rw [h.prevSibling?_eq hrow, List.getLast?_eq_some_iff] at hprev
    obtain ⟨rest, rfl⟩ := hprev
    exact ⟨rest, after, hrow⟩
  · rintro ⟨before, after, hrow⟩
    rw [h.prevSibling?_eq hrow]
    exact List.getLast?_concat

/-! ### Walks over whitespace -/

/-- Going on over whitespace ends by itself, at the last sibling if not before. -/
theorem walkAnswers_next (t : NodeId) :
    d.WalkAnswers d.nextSibling? t (d.nextSignificant? t) := by
  rw [nextSignificant?_eq]
  cases hnext : d.nextSibling? t with
  | none =>
    rw [following_of_last hnext]
    exact ⟨[], .stop hnext, rfl⟩
  | some sibling =>
    obtain ⟨before, after, hrow⟩ := exists_row_of_nextSibling? hnext
    rw [h.following_eq hrow]
    exact ⟨after, h.fullChain_nextSibling? hrow, rfl⟩

/-- Going back over whitespace ends by itself, at the first sibling if not before. -/
theorem walkAnswers_prev (t : NodeId) :
    d.WalkAnswers d.prevSibling? t (d.prevSignificant? t) := by
  rw [prevSignificant?_eq]
  cases hprev : d.prevSibling? t with
  | none =>
    rw [preceding_of_first hprev]
    exact ⟨[], .stop hprev, rfl⟩
  | some sibling =>
    obtain ⟨before, after, hrow⟩ := exists_row_of_prevSibling? hprev
    rw [h.preceding_eq hrow]
    exact ⟨before.reverse, h.fullChain_prevSibling? hrow, rfl⟩

/-- **The next node that is not whitespace** is the neighbour after it. -/
theorem nextSignificant?_iff_neighbours :
    d.nextSignificant? t = some u ↔ d.isWhitespace u = false ∧ d.Neighbours t u := by
  constructor
  · intro hnext
    obtain ⟨before, after, hrow⟩ := exists_row_of_nextSignificant? hnext
    obtain ⟨hsolid, gap, rest, rfl, hgap⟩ := (h.nextSignificant?_eq_some_iff hrow).mp hnext
    exact ⟨hsolid, gap, h.before_iff_row_left.mpr ⟨before, rest, hrow⟩, hgap⟩
  · rintro ⟨hsolid, gap, hbefore, hgap⟩
    obtain ⟨before, after, hrow⟩ := h.before_iff_row_left.mp hbefore
    exact (h.nextSignificant?_eq_some_iff hrow).mpr ⟨hsolid, gap, after, rfl, hgap⟩

/-- **The one before** is the neighbour before it. -/
theorem prevSignificant?_iff_neighbours :
    d.prevSignificant? u = some t ↔ d.isWhitespace t = false ∧ d.Neighbours t u := by
  constructor
  · intro hprev
    obtain ⟨before, after, hrow⟩ := exists_row_of_prevSignificant? hprev
    obtain ⟨hsolid, rest, gap, rfl, hgap⟩ := (h.prevSignificant?_eq_some_iff hrow).mp hprev
    exact ⟨hsolid, gap, h.before_iff_row_right.mpr ⟨rest, after, hrow⟩, hgap⟩
  · rintro ⟨hsolid, gap, hbefore, hgap⟩
    obtain ⟨before, after, hrow⟩ := h.before_iff_row_right.mp hbefore
    exact (h.prevSignificant?_eq_some_iff hrow).mpr ⟨hsolid, before, gap, rfl, hgap⟩

/-- There is no next node that is not whitespace when all that comes after is. -/
theorem nextSignificant?_eq_none_iff : d.nextSignificant? t = none ↔
    ∀ gap u, d.Before t gap u → d.isWhitespace u = true := by
  constructor
  · intro hnone gap u hbefore
    obtain ⟨before, after, hrow⟩ := h.before_iff_row_left.mp hbefore
    rw [nextSignificant?_eq, h.following_eq hrow, List.find?_eq_none] at hnone
    simpa using hnone u (List.mem_append_right gap List.mem_cons_self)
  · intro hblank
    cases hnext : d.nextSignificant? t with
    | none => rfl
    | some u =>
      obtain ⟨hsolid, gap, hbefore, -⟩ := h.nextSignificant?_iff_neighbours.mp hnext
      rw [hblank gap u hbefore] at hsolid
      cases hsolid

/-- There is no previous one when all that comes before is whitespace. -/
theorem prevSignificant?_eq_none_iff : d.prevSignificant? u = none ↔
    ∀ t gap, d.Before t gap u → d.isWhitespace t = true := by
  constructor
  · intro hnone t gap hbefore
    obtain ⟨before, after, hrow⟩ := h.before_iff_row_right.mp hbefore
    rw [prevSignificant?_eq, h.preceding_eq hrow, List.find?_eq_none] at hnone
    simpa using hnone t (List.mem_reverse.mpr (List.mem_append_right before List.mem_cons_self))
  · intro hblank
    cases hprev : d.prevSignificant? u with
    | none => rfl
    | some t =>
      obtain ⟨hsolid, gap, hbefore, -⟩ := h.prevSignificant?_iff_neighbours.mp hprev
      rw [hblank t gap hbefore] at hsolid
      cases hsolid

end Orderly

/-- **Siblings agree from both sides.** In an orderly document one node is the next sibling of
another exactly if that is its previous one. Both searches for a node that is not whitespace come to
an end by themselves; what they answer is the neighbour on that side, and they answer nothing exactly
if all siblings on that side are whitespace. Between nodes that are not whitespace each search takes
the other one back. Every document that is built is orderly, as long as its places do not wrap. -/
theorem siblings_agree_from_both_sides :
    (∀ d : Document, d.Orderly → ∀ t u : NodeId,
      (d.nextSibling? t = some u ↔ d.prevSibling? u = some t)
      ∧ d.WalkAnswers d.nextSibling? t (d.nextSignificant? t)
      ∧ d.WalkAnswers d.prevSibling? t (d.prevSignificant? t)
      ∧ (d.nextSignificant? t = some u ↔ d.isWhitespace u = false ∧ d.Neighbours t u)
      ∧ (d.prevSignificant? u = some t ↔ d.isWhitespace t = false ∧ d.Neighbours t u)
      ∧ (d.nextSignificant? t = none ↔ ∀ gap x, d.Before t gap x → d.isWhitespace x = true)
      ∧ (d.prevSignificant? t = none ↔ ∀ x gap, d.Before x gap t → d.isWhitespace x = true)
      ∧ (d.isWhitespace t = false → d.isWhitespace u = false →
        (d.nextSignificant? t = some u ↔ d.prevSignificant? u = some t)))
    ∧ ∀ (path : Path) (dialect : Dialect) (steps : List Builder.Step),
      (steps.flatMap Builder.Step.requests).length < UInt32.size →
      (build path dialect steps).Orderly := by
  refine ⟨?_, fun path dialect _ hnodes => orderly_build path dialect hnodes⟩
  intro d h t u
  refine ⟨?_, h.walkAnswers_next t, h.walkAnswers_prev t, h.nextSignificant?_iff_neighbours,
    h.prevSignificant?_iff_neighbours, h.nextSignificant?_eq_none_iff,
    h.prevSignificant?_eq_none_iff, ?_⟩
  · rw [h.nextSibling?_eq_some_iff, h.prevSibling?_eq_some_iff]
  · intro ht hu
    rw [h.nextSignificant?_iff_neighbours, h.prevSignificant?_iff_neighbours, ht, hu]

/-- In `{{  'hello' |trans}}` the string is found from the mark before it, over two blanks, and the
mark from the string; and nothing comes before the mark. -/
theorem siblings_agree_from_both_sides_spaced :
    let d := build ⟨"page.html"⟩ .template [.open .printBlock "", .punct "\x7b\x7b", .space, .space,
      .string "hello", .space, .punct "|", .ident "trans", .punct "\x7d\x7d", .close]
    d.Orderly ∧ d.nextSignificant? 2 = some 5 ∧ d.prevSignificant? 5 = some 2 ∧ d.Neighbours 2 5
      ∧ d.prevSibling? 3 = some 2 ∧ ∀ x gap, d.Before x gap 2 → d.isWhitespace x = true := by
  intro d
  obtain ⟨hagree, hbuilt⟩ := siblings_agree_from_both_sides
  have horderly : d.Orderly := hbuilt _ _ _ (by decide +kernel)
  have hnext : d.nextSignificant? 2 = some 5 := by decide +kernel
  have hstep : d.nextSibling? 2 = some 3 := by decide +kernel
  have hfirst : d.prevSignificant? 2 = none := by decide +kernel
  obtain ⟨-, -, -, hneighbours, -, -, hnone, hback⟩ := hagree d horderly 2 5
  refine ⟨horderly, hnext, ?_, (hneighbours.mp hnext).2, (hagree d horderly 2 3).1.mp hstep,
    hnone.mp hfirst⟩
  exact (hback (by decide +kernel) (by decide +kernel)).mp hnext

end Signpost.Document
