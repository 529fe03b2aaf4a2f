/-
`Proofs/Role/Domain.lean` -- the domain of a translation key.

A key is looked up in the domain that its own call names. From the key one comes to the parenthesis
of that call and goes on to the domain; from the domain one goes back to a parenthesis and counts.
In the filter form the two counts differ by one, the key itself being no argument there. They still
find the same argument, because the parenthesis alone tells what is called and whether it is a
filter: `OwnCall.getElem?_callArguments`.

Where the call names no domain, the last domain tag before the key sets it. Tags are gone through in
document order, and leaves follow each other in a tree, so the operand that comes last is the one
that ends last: `IsTree.ambient`.

Specification: B.6, item 10.
-/
import Signpost.Proofs.Document.Caret
import Signpost.Proofs.Role.Use

set_option autoImplicit false

namespace Signpost.Document

variable {d : Document} {names : TemplateSettings} {key t : NodeId}

/-! ## The call of a key -/

/-- The parenthesis of the call that translates a key, and the index of the domain among the
arguments. -/
inductive OwnCall (d : Document) (names : TemplateSettings) (key : NodeId) : NodeId → Nat → Prop
  /-- As in `key|trans(arguments, domain)`. -/
  | filter {bar filter opening : NodeId} (behind : d.nextSignificant? key = some bar)
    (mark : d.isPunct "|" bar = true) (next : d.nextSignificant? bar = some filter)
    (name : d.isKind .identifier filter = true) (text : names.transFunction = d.textOf filter)
    (after : d.nextSignificant? filter = some opening) (paren : d.isPunct "(" opening = true) :
    OwnCall d names key opening 1
  /-- As in `trans(key, arguments, domain)`. -/
  | function {callee opening : NodeId}
    (around : d.enclosingCall? key = some ⟨callee, opening, 0, false⟩)
    (text : names.transFunction = d.textOf callee) : OwnCall d names key opening 2

theorem transFilter?_eq_some_iff {filter : NodeId} :
    d.transFilter? names t = some filter ↔ ∃ bar, d.nextSignificant? t = some bar
      ∧ d.isPunct "|" bar = true ∧ d.nextSignificant? bar = some filter
      ∧ d.isKind .identifier filter = true ∧ names.transFunction = d.textOf filter := by
  simp only [transFilter?, Option.bind_eq_bind, Option.bind_eq_some_iff, Option.filter_eq_some_iff,
    Bool.and_eq_true, beq_iff_eq, and_assoc]

/-- A whole argument of a call is not put through a filter. -/
theorem transFilter?_of_enclosingCall? {call : Call} (h : d.enclosingCall? t = some call) :
    d.transFilter? names t = none := by
  rw [Option.eq_none_iff_forall_ne_some]
  intro filter hfilter
  obtain ⟨bar, hbehind, hmark, -⟩ := transFilter?_eq_some_iff.mp hfilter
  rw [nextSignificant?_of_enclosingCall? h hbehind] at hmark
  cases hmark

theorem stringArgument?_eq_some_iff {arguments : List (List NodeId)} {position : Nat}
    {text : String} :
    d.stringArgument? arguments position = some text ↔ ∃ t, arguments[position]? = some [t]
      ∧ d.isKind .stringLiteral t = true ∧ d.textOf t = text := by
  unfold stringArgument?
  constructor
  · intro h
    split at h
    · rename_i t hargument
      rw [Option.ite_none_right_eq_some] at h
      exact ⟨t, hargument, h.1, Option.some.inj h.2⟩
    · cases h
  · rintro ⟨t, hargument, hkind, rfl⟩
    rw [hargument]
    exact if_pos hkind

/-- **The domain that a key's call names** is the string at its index there. -/
theorem explicitDomain?_eq_some_iff (hkey : d.isTranslationKey names key = true) {domain : String} :
    d.explicitDomain? names key = some domain ↔ ∃ opening index t, d.OwnCall names key opening index
      ∧ (d.callArguments opening)[index]? = some [t] ∧ d.isKind .stringLiteral t = true
      ∧ d.textOf t = domain := by
  unfold explicitDomain?
  cases hform : d.transFilter? names key with
  | some filter =>
    simp only [Option.bind_eq_bind, Option.bind_eq_some_iff, Option.filter_eq_some_iff,
      stringArgument?_eq_some_iff]
    constructor
    · rintro ⟨opening, ⟨hafter, hparen⟩, t, hargument⟩
      obtain ⟨bar, hbehind, hmark, hnext, hname, htext⟩ := transFilter?_eq_some_iff.mp hform
      exact ⟨opening, 1, t, .filter hbehind hmark hnext hname htext hafter hparen, hargument⟩
    · rintro ⟨opening, index, t, hown, hargument⟩
      cases hown with
      | filter hbehind hmark hnext hname htext hafter hparen =>
        have hsame := transFilter?_eq_some_iff.mpr ⟨_, hbehind, hmark, hnext, hname, htext⟩
        obtain rfl := Option.some.inj (hform.symm.trans hsame)
        exact ⟨opening, ⟨hafter, hparen⟩, t, hargument⟩
      | function haround _ =>
        rw [transFilter?_of_enclosingCall? haround] at hform
        cases hform
  | none =>
    simp only [Option.bind_eq_bind, Option.bind_eq_some_iff, Option.filter_eq_some_iff,
      stringArgument?_eq_some_iff, beq_iff_eq]
    constructor
    · rintro ⟨call, ⟨haround, -⟩, t, hargument⟩
      -- without a filter behind it the key is accepted as the first argument of a function
      rw [isTranslationKey, hform, Option.isSome_none, Bool.false_or, Bool.and_eq_true] at hkey
      obtain ⟨callee, opening, hfirst, htext⟩ := isFirstArgumentOf_iff.mp hkey.2
      obtain rfl := Option.some.inj (haround.symm.trans hfirst)
      exact ⟨opening, 2, t, .function hfirst (beq_iff_eq.mp htext), hargument⟩
    · rintro ⟨opening, index, t, hown, hargument⟩
      cases hown with
      | filter hbehind hmark hnext hname htext _ _ =>
        have hsome := transFilter?_eq_some_iff.mpr ⟨_, hbehind, hmark, hnext, hname, htext⟩
        rw [hform] at hsome
        cases hsome
      | function haround htext => exact ⟨_, ⟨haround, htext⟩, t, hargument⟩

theorem explicitDomain?_eq_none_iff (hkey : d.isTranslationKey names key = true) :
    d.explicitDomain? names key = none ↔ ∀ opening index t, d.OwnCall names key opening index →
      (d.callArguments opening)[index]? = some [t] → d.isKind .stringLiteral t = false := by
  rw [Option.eq_none_iff_forall_ne_some]
  constructor
  · intro hnone opening index t hown hargument
    rw [Bool.eq_false_iff]
    intro hkind
    exact hnone (d.textOf t) ((explicitDomain?_eq_some_iff hkey).mpr
      ⟨opening, index, t, hown, hargument, hkind, rfl⟩)
  · intro hother domain hsome
    obtain ⟨opening, index, t, hown, hargument, hkind, -⟩ :=
      (explicitDomain?_eq_some_iff hkey).mp hsome
    rw [hother opening index t hown hargument] at hkind
    cases hkind

/-- What is called, and whether as a filter, is read off the parenthesis. -/
theorem before_of_enclosingCall? {call : Call} (h : d.enclosingCall? t = some call) :
    d.prevSignificant? call.opening = some call.callee
      ∧ call.filter = (d.prevSignificant? call.callee).any (d.isPunct "|") := by
  simp only [enclosingCall?, Option.bind_eq_bind, Option.bind_eq_some_iff,
    Option.ite_none_left_eq_some, Option.filter_eq_some_iff] at h
  obtain ⟨_, _, _, _, _, _, ⟨opening, commas⟩, _, callee, ⟨hcallee, _⟩, hcall⟩ := h
  cases hcall
  exact ⟨hcallee, rfl⟩

theorem isKind_eq_false_of_isKind {kind other : NodeKind} (hne : kind ≠ other)
    (h : d.isKind kind t = true) : d.isKind other t = false := by
  rw [Bool.eq_false_iff]
  intro hother
  exact hne (kind_eq_of_isKind h hother)

/-- **Both ways lead to the same argument.** A string that finds itself at position 2 of the key's
call stands where the domain is looked for. -/
theorem OwnCall.getElem?_callArguments (h : d.Orderly) {opening callee : NodeId} {index : Nat}
    {filter : Bool} (hown : d.OwnCall names key opening index)
    (hkind : d.isKind .stringLiteral t = true)
    (hcall : d.enclosingCall? t = some ⟨callee, opening, 2, filter⟩) :
    (d.callArguments opening)[index]? = some [t] := by
  have hmark : d.isKind .punct t = false := isKind_eq_false_of_isKind (by decide) hkind
  have hsolid : d.isWhitespace t = false := isKind_eq_false_of_isKind (by decide) hkind
  obtain ⟨i, hposition, hargument⟩ := h.exists_argument hmark hsolid hcall
  obtain ⟨hcallee, hfilter⟩ := before_of_enclosingCall? hcall
  cases hown with
  | @filter bar name _ _ hbar hnext hname _ hafter _ =>
    -- back from the parenthesis come the filter and its bar
    have hback := h.prevSignificant?_of_nextSignificant? hafter
      (isKind_eq_false_of_isKind (by decide) hname)
    obtain rfl : callee = name := Option.some.inj (hcallee.symm.trans hback)
    have hfront := h.prevSignificant?_of_nextSignificant? hnext (isWhitespace_of_isPunct hbar)
    have htrue : filter = true := hfilter.trans (by rw [hfront]; exact hbar)
    rw [htrue] at hposition
    obtain rfl : i = 1 := (Nat.succ.inj hposition).symm
    exact hargument
  | function haround _ =>
    -- key and domain have found the same parenthesis, hence the same callee and form
    obtain ⟨hcallee', hfilter'⟩ := before_of_enclosingCall? haround
    obtain rfl := Option.some.inj (hcallee.symm.trans hcallee')
    rw [hfilter.trans hfilter'.symm] at hposition
    obtain rfl : i = 2 := hposition.symm
    exact hargument

/-! ## The ambient domain -/

/-- A string that a domain tag takes, and that ends before an offset. -/
structure SetsDomainBefore (d : Document) (names : TemplateSettings) (offset : UInt32)
    (t : NodeId) : Prop where
  operand : d.Used t (.operand names.defaultDomainTag)
  before : (d.spanOf t).stop ≤ offset

/-- The domain at an offset: what the last domain tag before it says, or the default. -/
inductive Ambient (d : Document) (names : TemplateSettings) (offset : UInt32) : String → Prop
  /-- The tag's operand is the last one, and no other ends later. -/
  | tagged {earlier later : List NodeId} {t : NodeId} (leaves : d.leaves = earlier ++ t :: later)
    (sets : d.SetsDomainBefore names offset t)
    (last : ∀ other ∈ later, ¬ d.SetsDomainBefore names offset other)
    (latest : ∀ other, d.SetsDomainBefore names offset other →
      (d.spanOf other).stop ≤ (d.spanOf t).stop) : Ambient d names offset (d.textOf t)
  | default (none : ∀ t, ¬ d.SetsDomainBefore names offset t) :
    Ambient d names offset names.defaultDomain

theorem setsDomainBefore_iff {offset : UInt32} :
    (d.isKind .stringLiteral t && (d.spanOf t).stop ≤ offset && d.isDomainOperand names t) = true
      ↔ d.SetsDomainBefore names offset t := by
  have hused : d.isKind .stringLiteral t = true ∧ d.isDomainOperand names t = true
      ↔ d.Used t (.operand names.defaultDomainTag) := by
    rw [isDomainOperand, operandOf_iff_used]
    simp only [beq_iff_eq, exists_eq_right']
  rw [Bool.and_right_comm, Bool.and_eq_true, Bool.and_eq_true, hused, decide_eq_true_eq]
  exact ⟨fun h => ⟨h.1, h.2⟩, fun h => ⟨h.operand, h.before⟩⟩

theorem isLeaf_of_isKind {kind : NodeKind} (hk : kind.isLeaf = true)
    (h : d.isKind kind t = true) : d.isLeaf t = true := by
  rw [isKind, Option.any_eq_true] at h
  obtain ⟨node, hnode, hkind⟩ := h
  rw [isLeaf, hnode, Option.any_some, of_decide_eq_true hkind]
  exact hk

theorem SetsDomainBefore.isLeaf {offset : UInt32} (h : d.SetsDomainBefore names offset t) :
    d.isLeaf t = true := by
  have hsets := setsDomainBefore_iff.mpr h
  rw [Bool.and_eq_true, Bool.and_eq_true] at hsets
  exact isLeaf_of_isKind rfl hsets.1.1

/-- **The search for a domain tag finds the ambient domain.** -/
theorem IsTree.ambient (h : d.IsTree) (hleaves : ∀ t, d.isLeaf t = true → t ∈ d.leaves)
    (hnone : d.explicitDomain? names key = none) :
    d.Ambient names (d.spanOf key).start (d.translationDomain names key) := by
  have hmem : ∀ {t : NodeId}, d.SetsDomainBefore names (d.spanOf key).start t → t ∈ d.leaves :=
    fun hsets => hleaves _ hsets.isLeaf
  rw [translationDomain, hnone]
  cases hlast : (d.domainOperandsBefore names (d.spanOf key).start).getLast? with
  | none =>
    rw [List.getLast?_eq_none_iff, domainOperandsBefore, List.filter_eq_nil_iff] at hlast
    exact .default fun t hsets => hlast t (hmem hsets) (setsDomainBefore_iff.mpr hsets)
  | some t =>
    -- the last of those kept is the first one kept from behind
    rw [domainOperandsBefore, List.getLast?_filter, List.find?_eq_some_iff_append] at hlast
    simp only [Bool.not_eq_true', ← Bool.not_eq_true, setsDomainBefore_iff] at hlast
    obtain ⟨hsets, later, earlier, hsplit, hlater⟩ := hlast
    have hrow : d.leaves = earlier.reverse ++ t :: later.reverse := by
      rw [← List.reverse_reverse d.leaves, hsplit]
      simp
    refine .tagged hrow hsets (fun other hother => hlater other (List.mem_reverse.mp hother)) ?_
    intro other hother
    have hwhere := hmem hother
    rw [hrow, List.mem_append, List.mem_cons] at hwhere
    -- an operand before this one ends before it starts, and behind it there is none
    rcases hwhere with hearlier | rfl | hbehind
    · have hapart := h.pairwise_leaves
      rw [hrow, List.pairwise_append] at hapart
      have hstart := hapart.2.2 other hearlier t List.mem_cons_self
      exact UInt32.le_trans hstart (h.forward (isSome_node?_of_isLeaf hsets.isLeaf))
    · exact UInt32.le_refl _
    · exact absurd hother (hlater other (List.mem_reverse.mp hbehind))

/-! ## Keys in documents that are built -/

/-- **A key is translated in the domain its own call names, else in the ambient one.** In a document
that is built without opening nodes of leaf kinds, take a string that is accepted as a key. A string
that finds itself at position 2 of the key's call is the domain. Where that place of the call is
missing or holds anything but a single string, or there is no call, the ambient domain counts. -/
theorem key_domain_of_call_or_ambient (path : Path) (dialect : Dialect) {steps : List Builder.Step}
    (hbytes : Builder.totalBytes steps < UInt32.size)
    (hnodes : (steps.flatMap Builder.Step.requests).length + 1 < UInt32.size)
    (hopen : ∀ kind label, Builder.Step.open kind label ∈ steps → kind.isLeaf = false)
    (names : TemplateSettings) {key : NodeId}
    (hkey : (build path dialect steps).isTranslationKey names key = true) :
    let d := build path dialect steps
    (∀ opening index t callee filter, d.OwnCall names key opening index →
      d.isKind .stringLiteral t = true →
      d.enclosingCall? t = some ⟨callee, opening, 2, filter⟩ →
      d.translationDomain names key = d.textOf t)
    ∧ ((∀ opening index t, d.OwnCall names key opening index →
        (d.callArguments opening)[index]? = some [t] → d.isKind .stringLiteral t = false) →
      d.Ambient names (d.spanOf key).start (d.translationDomain names key)) := by
  intro d
  constructor
  · intro opening index t callee filter hown hkind hcall
    have hargument := hown.getElem?_callArguments (orderly_build path dialect (by omega)) hkind
      hcall
    have hdomain : d.explicitDomain? names key = some (d.textOf t) :=
      (explicitDomain?_eq_some_iff hkey).mpr ⟨opening, index, t, hown, hargument, hkind, rfl⟩
    rw [translationDomain, hdomain]
  · intro hother
    exact (isTree_build path dialect hbytes hnodes).ambient
      (fun _ => mem_leaves_build_of_isLeaf path dialect hbytes hnodes hopen)
      ((explicitDomain?_eq_none_iff hkey).mpr hother)

/-- After two domain tags, the key of `'k'|trans({}, 'd')` is looked up in the domain `d` and that of
`trans('m')` in the domain of the second tag. -/
theorem key_domain_of_call_or_ambient_tagged :
    let names := Settings.default.templates
    let steps : List Builder.Step := [.open .tagBlock "trans_default_domain",
      .ident "trans_default_domain", .space, .string "first", .close,
      .open .tagBlock "trans_default_domain", .ident "trans_default_domain", .space,
      .string "second", .close, .open .printBlock "", .string "k", .punct "|", .ident "trans",
      .punct "(", .punct "\x7b", .punct "\x7d", .punct ",", .space, .string "d", .punct ")", .close,
      .open .printBlock "", .ident "trans", .punct "(", .string "m", .punct ")", .close]
    let d := build ⟨"page.html.twig"⟩ .template steps
    d.translationDomain names 10 = "d" ∧ d.Ambient names (d.spanOf 23).start "second" := by
  intro names steps d
  have hopen : ∀ kind label, Builder.Step.open kind label ∈ steps → kind.isLeaf = false := by
    intro kind label hmem
    simp only [steps, List.mem_cons, Builder.Step.open.injEq, reduceCtorEq, false_or, or_false,
      List.not_mem_nil] at hmem
    rcases hmem with ⟨rfl, -⟩ | ⟨rfl, -⟩ | ⟨rfl, -⟩ | ⟨rfl, -⟩ <;> rfl
  have hdomain := @key_domain_of_call_or_ambient ⟨"page.html.twig"⟩ .template steps
    (by decide +kernel) (by decide +kernel) hopen names
  constructor
  · have hkey : d.isTranslationKey names 10 = true := by decide +kernel
    have hown : d.OwnCall names 10 13 1 :=
      @OwnCall.filter _ _ _ 11 12 13 (by decide +kernel) (by decide +kernel) (by decide +kernel)
        (by decide +kernel) (by decide +kernel) (by decide +kernel) (by decide +kernel)
    exact (hdomain hkey).1 13 1 18 12 true hown (by decide +kernel) (by decide +kernel)
  · have hkey : d.isTranslationKey names 23 = true := by decide +kernel
    have hnone : d.explicitDomain? names 23 = none := by decide +kernel
    have hambient := (hdomain hkey).2 ((explicitDomain?_eq_none_iff hkey).mp hnone)
    have hsecond : d.translationDomain names 23 = "second" := by decide +kernel
    exact hsecond ▸ hambient

end Signpost.Document
