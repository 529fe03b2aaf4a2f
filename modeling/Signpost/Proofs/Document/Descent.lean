/-
`Proofs/Document/Descent.lean` -- what a caret finds in any accepted document.

In a tree the leaf under a caret is the one leaf around it. A document from outside need not be such
a tree: its spans may overlap, be empty or stick out of their parents, leaves may have children, and
the root may be of any kind. What is left is what the way down tests, and it tests every node that
it goes to: the end of the way is around the offset, and so is everything that the way has passed.
Since the way up from the end is the way down reversed, nothing away from the offset is among its
ancestors.

One node is never gone to. The way starts at the root without a test, so a root of a leaf kind that
the way does not leave is found at every offset, also far away from it. `StrayRoot` is that case,
and `caret_finds_around_iff` proves that there is no other.
-/
import Signpost.Proofs.Document.Caret

set_option autoImplicit false

namespace Signpost.Document

variable {d : Document} {offset : UInt32}

/-! ## The way down -/

theorem contains_of_childAround? {id child : NodeId} (h : d.childAround? offset id = some child) :
    (d.spanOf child).contains offset = true := by
  have haround := List.find?_some h
  exact haround

/-- A way down ends in one place. -/
theorem DescentEnds.last_unique {steps steps' : Nat} {id last last' : NodeId}
    (hends : d.DescentEnds offset steps id last) (hends' : d.DescentEnds offset steps' id last') :
    last = last' := by
  induction hends generalizing steps' with
  | stop hnone =>
    cases hends' with
    | stop => rfl
    | step hsome _ =>
      rw [hnone] at hsome
      cases hsome
  | step hsome _ ih =>
    cases hends' with
    | stop hnone =>
      rw [hnone] at hsome
      cases hsome
    | step hsome' hrest =>
      rw [hsome] at hsome'
      cases hsome'
      exact ih hrest

theorem DescentEnds.below_last {top id last : NodeId} {steps levels : Nat}
    (hends : d.DescentEnds offset steps id last) (hid : d.Below top levels id) :
    d.Below top (levels + steps) last := by
  induction hends generalizing levels with
  | stop => exact hid
  | @step steps id child last hchild _ ih =>
    have hlast := ih (hid.child (List.mem_of_find?_eq_some hchild))
    rwa [Nat.add_right_comm] at hlast

/-- Every node from this one up to the root is around the offset. The root itself may be away. -/
def UpwardsAround (d : Document) (offset : UInt32) (id : NodeId) : Prop :=
  ∀ a ∈ id :: d.ancestors id, a ≠ rootId → (d.spanOf a).contains offset = true

namespace Linked

variable (h : d.Linked)

include h

theorem ancestors_root : d.ancestors rootId = [] :=
  List.eq_nil_of_length_eq_zero (h.wayUp_ancestors .here).1

/-- One step down adds one step to the way up. -/
theorem ancestors_child {levels : Nat} {id child : NodeId} (hid : d.Below rootId levels id)
    (hchild : child ∈ d.childrenOf id) : d.ancestors child = id :: d.ancestors id := by
  have hup := (h.wayUp_ancestors (hid.child hchild)).2.full
  have hlonger := FullChain.step (h.back hchild) (h.wayUp_ancestors hid).2.full
  exact hup.unique hlonger

/-- **Nothing on the way down is away from the offset.** The induction is on the way that is left;
what has been passed so far is the way up from where it stands. -/
theorem upwardsAround_of_descentEnds {steps levels : Nat} {id last : NodeId}
    (hid : d.Below rootId levels id) (haround : d.UpwardsAround offset id)
    (hends : d.DescentEnds offset steps id last) : d.UpwardsAround offset last := by
  induction hends generalizing levels with
  | stop => exact haround
  | @step steps id child last hchild _ ih =>
    have hlisted : child ∈ d.childrenOf id := List.mem_of_find?_eq_some hchild
    refine ih (hid.child hlisted) ?_
    intro a ha hne
    rw [h.ancestors_child hid hlisted] at ha
    rcases List.mem_cons.mp ha with rfl | ha
    · exact contains_of_childAround? hchild
    · exact haround a ha hne

/-- The leaf under a caret is where the way down from the root ends, if that is a leaf. -/
theorem tokenAt?_eq_some_iff_descentEnds {t : NodeId} :
    d.tokenAt? offset = some t
      ↔ d.isLeaf t = true ∧ ∃ steps, d.DescentEnds offset steps rootId t := by
  obtain ⟨steps, -, hends⟩ := h.descentEnds_descend offset .here (Nat.le_add_left _ 0)
  rw [tokenAt?, h.root?_eq, Option.bind_some, Option.ite_none_right_eq_some, Option.some.injEq]
  constructor
  · rintro ⟨hleaf, rfl⟩
    exact ⟨hleaf, steps, hends⟩
  · rintro ⟨hleaf, steps', hends'⟩
    obtain rfl := hends.last_unique hends'
    exact ⟨hleaf, rfl⟩

theorem upwardsAround_of_tokenAt? {t : NodeId} (ht : d.tokenAt? offset = some t) :
    d.UpwardsAround offset t := by
  obtain ⟨-, steps, hends⟩ := h.tokenAt?_eq_some_iff_descentEnds.mp ht
  refine h.upwardsAround_of_descentEnds .here ?_ hends
  intro a ha hne
  rw [h.ancestors_root] at ha
  exact absurd (List.mem_singleton.mp ha) hne

/-- The root is found when the way down does not leave it: no way down comes back to it. -/
theorem tokenAt?_eq_some_root_iff :
    d.tokenAt? offset = some rootId
      ↔ d.isLeaf rootId = true ∧ d.childAround? offset rootId = none := by
  rw [h.tokenAt?_eq_some_iff_descentEnds]
  refine and_congr_right fun _ => ⟨?_, fun hnone => ⟨0, .stop hnone⟩⟩
  rintro ⟨steps, hends⟩
  cases steps with
  | zero =>
    cases hends with
    | stop hnone => exact hnone
  | succ steps =>
    have hself := hends.below_last (.here : d.Below rootId 0 rootId)
    rw [Nat.zero_add] at hself
    exact absurd hself (h.not_below_self .here steps)

end Linked

/-! ## What is found is around the caret -/

/-- What is asked at an offset is answered around it: the leaf that is found and all its ancestors
but the root, and the anchor of the overlay that is shown. Where no leaf is around the offset, those
who need one are told that there is none. -/
structure FindsAround (d : Document) (offset : UInt32) : Prop where
  token : ∀ t, d.tokenAt? offset = some t →
    d.isLeaf t = true ∧ (d.spanOf t).contains offset = true
      ∧ ∀ a ∈ d.ancestors t, a ≠ rootId → (d.spanOf a).contains offset = true
  overlay : ∀ (p : Project) (o : Overlay), p.overlayAt? d offset = some o →
    o.anchor.contains offset = true
  required : (∀ t, d.isLeaf t = true → (d.spanOf t).contains offset = false) →
    d.requireTokenAt offset = .error (.tokenNotFound d.path offset)

/-- The root is of a leaf kind and away from the offset, and the way down does not leave it. -/
structure StrayRoot (d : Document) (offset : UInt32) : Prop where
  leaf : d.isLeaf rootId = true
  away : (d.spanOf rootId).contains offset = false
  kept : d.childAround? offset rootId = none

theorem requireTokenAt_of_none (hnone : d.tokenAt? offset = none) :
    d.requireTokenAt offset = .error (.tokenNotFound d.path offset) := by
  rw [requireTokenAt, hnone]

/-- The overlay at an offset is anchored at the leaf that is found there. -/
theorem exists_token_of_overlayAt? {p : Project} {o : Overlay}
    (ho : p.overlayAt? d offset = some o) :
    ∃ t, d.tokenAt? offset = some t ∧ o.anchor = d.spanOf t := by
  rw [Project.overlayAt?, Option.bind_eq_some_iff] at ho
  obtain ⟨t, ht, ho⟩ := ho
  rw [Project.overlay?, Option.map_eq_some_iff] at ho
  obtain ⟨text, -, rfl⟩ := ho
  exact ⟨t, ht, rfl⟩

/-- All answers are around the offset if the leaf is. -/
theorem findsAround_of_token
    (htoken : ∀ t, d.tokenAt? offset = some t →
      d.isLeaf t = true ∧ (d.spanOf t).contains offset = true
        ∧ ∀ a ∈ d.ancestors t, a ≠ rootId → (d.spanOf a).contains offset = true) :
    d.FindsAround offset := by
  refine ⟨htoken, ?_, ?_⟩
  · intro p o ho
    obtain ⟨t, ht, hanchor⟩ := exists_token_of_overlayAt? ho
    rw [hanchor]
    exact (htoken t ht).2.1
  · intro hnone
    apply requireTokenAt_of_none
    rw [Option.eq_none_iff_forall_ne_some]
    intro t ht
    obtain ⟨hleaf, hcontains, -⟩ := htoken t ht
    rw [hnone t hleaf] at hcontains
    cases hcontains

/-- **What a caret finds in an accepted document.** A leaf, around the offset together with all its
ancestors, the root always excepted. So every answer at an offset is around it, unless the root is
of a leaf kind, is away from the offset and has no child around it. -/
theorem caret_finds_around_iff (d : Document) (haccepted : d.linkDefect? = none)
    (offset : UInt32) :
    (∀ t, d.tokenAt? offset = some t → d.isLeaf t = true ∧ d.UpwardsAround offset t)
      ∧ (d.FindsAround offset ↔ ¬ d.StrayRoot offset) := by
  have hlinked : d.Linked := linked_of_linkDefect? haccepted
  have hfound : ∀ t, d.tokenAt? offset = some t →
      d.isLeaf t = true ∧ d.UpwardsAround offset t := fun t ht =>
    ⟨(hlinked.tokenAt?_eq_some_iff_descentEnds.mp ht).1, hlinked.upwardsAround_of_tokenAt? ht⟩
  refine ⟨hfound, ?_, ?_⟩
  · intro haround hstray
    have hroot := hlinked.tokenAt?_eq_some_root_iff.mpr ⟨hstray.leaf, hstray.kept⟩
    have hcontains := (haround.token rootId hroot).2.1
    rw [hstray.away] at hcontains
    cases hcontains
  · intro hstray
    refine findsAround_of_token fun t ht => ?_
    obtain ⟨hleaf, hup⟩ := hfound t ht
    refine ⟨hleaf, ?_, fun a ha => hup a (List.mem_cons_of_mem t ha)⟩
    -- only the root can be away, and then it is a stray one
    by_cases hne : t = rootId
    · subst hne
      by_contra haway
      obtain ⟨-, hkept⟩ := hlinked.tokenAt?_eq_some_root_iff.mp ht
      exact hstray ⟨hleaf, Bool.eq_false_iff.mpr haway, hkept⟩
    · exact hup t List.mem_cons_self hne

/-- A document whose only node is a reference to a service. -/
def loneReference : Document :=
  ⟨⟨"services.yaml"⟩, .config, #[⟨.scalar, "@mailer", ⟨0, 7⟩, none, []⟩]⟩

/-- On the reference itself all is well, and past its end it is not. -/
theorem caret_finds_around_iff_reference :
    loneReference.FindsAround 3 ∧ ¬ loneReference.FindsAround 100 := by
  have haccepted : loneReference.linkDefect? = none := by decide +kernel
  refine ⟨(caret_finds_around_iff _ haccepted 3).2.mpr ?_, ?_⟩
  · intro hstray
    exact absurd hstray.away (by decide +kernel)
  · rw [(caret_finds_around_iff _ haccepted 100).2, Classical.not_not]
    exact ⟨by decide +kernel, by decide +kernel, by decide +kernel⟩

/-- A project in which the service is known. -/
def mailerProject : Project where
  index := Index.ofEntries [.service ⟨"mailer", some "App\\Mailer", none, none⟩]
  settings := .default

/-- No leaf is around offset 100, and yet a leaf is found there, also by those who would rather be
told that there is none, and an overlay is shown 93 bytes before the caret. -/
theorem stray_root_is_found :
    loneReference.linkDefect? = none
      ∧ (∀ t, loneReference.isLeaf t = true → (loneReference.spanOf t).contains 100 = false)
      ∧ loneReference.tokenAt? 100 = some rootId
      ∧ loneReference.requireTokenAt 100 = .ok rootId
      ∧ mailerProject.overlayAt? loneReference 100 = some ⟨"App\\Mailer", ⟨0, 7⟩⟩ := by
  refine ⟨by decide +kernel, ?_, by decide +kernel, by decide +kernel, by decide +kernel⟩
  intro t ht
  obtain ⟨node, hnode⟩ := Option.isSome_iff_exists.mp (isSome_node?_of_isLeaf ht)
  have hlt : t.toNat < 1 := lt_size_of_node? hnode
  obtain rfl : t = rootId := by
    by_contra hne
    rw [← ne_eq, ne_rootId_iff] at hne
    omega
  decide +kernel

end Signpost.Document
