/-
`Proofs/Role/Use.lean` -- how a token of a template is used.

The roles of templates look to both sides of a token: some ask for a tag in front, some for a call
around, one for a filter behind. `Used` names the four ways in which a token can stand in its row,
and `Serves` is the table that says which role goes with which of them under the given names;
`accepts_iff_used` proves that the roles are that table and nothing else.

Two facts then settle which tokens have several roles. One use serves one role, as long as the names
for different things are different names (`Serves.unique`). And a token has one use, with one
exception (`Used.eq_or_filtered_operand`): a tag looks at what stands before its operand, a filter
at what stands behind its value, and neither of the two looks at the other side.

Specification: 4.4.
-/
import Signpost.Role
import Signpost.Proofs.Role.Call
import Mathlib.Data.Finset.Card

set_option autoImplicit false

namespace Signpost

/-- The names that templates use for different things are different names. -/
structure TemplateSettings.Apart (names : TemplateSettings) : Prop where
  functions : [[names.transFunction], [names.blockFunction], names.routeFunctions,
    names.fileFunctions].Pairwise List.Disjoint
  tags : names.defaultDomainTag ∉ names.fileTags

namespace Document

variable {d : Document} {names : TemplateSettings} {t : NodeId}

/-! ## Uses -/

/-- A way in which a token can refer to something. -/
inductive Use where
  /-- A bare name as the first operand of a tag. -/
  | named (tag : String)
  /-- A string as the first operand of a tag. -/
  | operand (tag : String)
  /-- A string as a whole argument of a call. -/
  | argument (callee : String) (position : Nat) (filter : Bool)
  /-- A string put through a filter. -/
  | filtered (filter : String)

/-- The token is used in that way. -/
inductive Used (d : Document) (t : NodeId) : Use → Prop
  | named {tag : String} (kind : d.isKind .identifier t = true) (inside : d.tagName? t = some tag)
    (first : d.isTagOperand tag t = true) : Used d t (.named tag)
  | operand {tag : String} (kind : d.isKind .stringLiteral t = true)
    (inside : d.tagName? t = some tag) (first : d.isTagOperand tag t = true) :
    Used d t (.operand tag)
  | argument {callee opening : NodeId} {position : Nat} {filter : Bool}
    (kind : d.isKind .stringLiteral t = true)
    (around : d.enclosingCall? t = some ⟨callee, opening, position, filter⟩) :
    Used d t (.argument (d.textOf callee) position filter)
  | filtered {bar filter : NodeId} (kind : d.isKind .stringLiteral t = true)
    (behind : d.nextSignificant? t = some bar) (mark : d.isPunct "|" bar = true)
    (next : d.nextSignificant? bar = some filter) (name : d.isKind .identifier filter = true) :
    Used d t (.filtered (d.textOf filter))

/-- The role that a use is for. -/
inductive Serves (names : TemplateSettings) : Use → Role → Prop
  | blockTag {tag : String} (h : names.blockFunction = tag) :
    Serves names (.named tag) .templateBlockReference
  | fileTag {tag : String} (h : tag ∈ names.fileTags) :
    Serves names (.operand tag) .templateFileReference
  | domainTag {tag : String} (h : names.defaultDomainTag = tag) :
    Serves names (.operand tag) .translationDomainArgument
  | block {callee : String} (h : names.blockFunction = callee) :
    Serves names (.argument callee 0 false) .templateBlockReference
  | file {callee : String} (h : callee ∈ names.fileFunctions) :
    Serves names (.argument callee 0 false) .templateFileReference
  | route {callee : String} (h : callee ∈ names.routeFunctions) :
    Serves names (.argument callee 0 false) .routeNameReference
  | key {callee : String} (h : names.transFunction = callee) :
    Serves names (.argument callee 0 false) .translationKeyReference
  | domain {callee : String} {filter : Bool} (h : names.transFunction = callee) :
    Serves names (.argument callee 2 filter) .translationDomainArgument
  | filter {filter : String} (h : names.transFunction = filter) :
    Serves names (.filtered filter) .translationKeyReference

/-! ## Roles are served by uses

The roles are put together from a few tests of a string: a tag with an accepted name takes it, a
function with an accepted name takes it first, the translating filter follows it. Each test is a use,
and the equivalences below are what both directions of `accepts_iff_used` go through. -/

/-- An operand of an accepted tag is one of the tag that it stands in. -/
theorem isOperandOf_iff {accept : String → Bool} :
    d.isOperandOf accept t = true
      ↔ ∃ tag, d.tagName? t = some tag ∧ accept tag = true ∧ d.isTagOperand tag t = true := by
  simp only [isOperandOf, Option.any_eq_true, Bool.and_eq_true]

/-- A first argument is one of a call, not of a filter, at position 0. -/
theorem isFirstArgumentOf_iff {accept : String → Bool} :
    d.isFirstArgumentOf accept t = true
      ↔ ∃ callee opening, d.enclosingCall? t = some ⟨callee, opening, 0, false⟩
        ∧ accept (d.textOf callee) = true := by
  simp only [isFirstArgumentOf, Option.any_eq_true, Bool.and_eq_true, beq_iff_eq,
    Bool.not_eq_true']
  constructor
  · rintro ⟨⟨callee, opening, position, filter⟩, hcall, ⟨rfl, rfl⟩, haccept⟩
    exact ⟨callee, opening, hcall, haccept⟩
  · rintro ⟨callee, opening, hcall, haccept⟩
    exact ⟨_, hcall, ⟨rfl, rfl⟩, haccept⟩

/-- As a use: a string that is the operand of such a tag. -/
theorem operandOf_iff_used {accept : String → Bool} :
    d.isKind .stringLiteral t = true ∧ d.isOperandOf accept t = true
      ↔ ∃ tag, d.Used t (.operand tag) ∧ accept tag = true := by
  rw [isOperandOf_iff]
  constructor
  · rintro ⟨hkind, tag, hinside, haccept, hfirst⟩
    exact ⟨tag, .operand hkind hinside hfirst, haccept⟩
  · rintro ⟨tag, ⟨⟩ | ⟨hkind, hinside, hfirst⟩, haccept⟩
    exact ⟨hkind, tag, hinside, haccept, hfirst⟩

/-- As a use: a string at position 0 of such a call. -/
theorem firstArgumentOf_iff_used {accept : String → Bool} :
    d.isKind .stringLiteral t = true ∧ d.isFirstArgumentOf accept t = true
      ↔ ∃ callee, d.Used t (.argument callee 0 false) ∧ accept callee = true := by
  rw [isFirstArgumentOf_iff]
  constructor
  · rintro ⟨hkind, callee, opening, hcall, haccept⟩
    exact ⟨_, .argument hkind hcall, haccept⟩
  · rintro ⟨callee, hused, haccept⟩
    cases hused with
    | argument hkind hcall => exact ⟨hkind, _, _, hcall, haccept⟩

/-- As a use: a string that the translating filter is applied to. -/
theorem transFilter?_iff_used :
    d.isKind .stringLiteral t = true ∧ (d.transFilter? names t).isSome = true
      ↔ d.Used t (.filtered names.transFunction) := by
  simp only [transFilter?, Option.bind_eq_bind, Option.isSome_iff_exists, Option.bind_eq_some_iff,
    Option.filter_eq_some_iff, Bool.and_eq_true, beq_iff_eq]
  constructor
  · rintro ⟨hkind, filter, bar, ⟨hbehind, hmark⟩, hnext, hname, htext⟩
    rw [htext]
    exact .filtered hkind hbehind hmark hnext hname
  · -- the name set for the filter is no pattern, so the use is taken apart up to an equation
    generalize hfilter : Use.filtered names.transFunction = u
    intro hused
    cases hused with
    | filtered hkind hbehind hmark hnext hname =>
      exact ⟨hkind, _, _, ⟨hbehind, hmark⟩, hnext, hname, Use.filtered.inj hfilter⟩
    | _ => cases hfilter

/-- A role that accepts a token does so for one of its uses. -/
theorem exists_used_of_accepts {r : Role} (hr : r.dialect = .template)
    (h : d.accepts names t r = true) : ∃ u, d.Used t u ∧ Serves names u r := by
  cases r with
  | classNameValue => cases hr
  | serviceReferenceValue => cases hr
  | parameterReferenceValue => cases hr
  | serviceIdKey => cases hr
  | templateBlockReference =>
    rw [accepts, isBlockReference, Bool.or_eq_true, Bool.and_eq_true, Bool.and_eq_true] at h
    rcases h with ⟨hkind, h⟩ | h
    · obtain ⟨tag, hinside, haccept, hfirst⟩ := isOperandOf_iff.mp h
      exact ⟨_, .named hkind hinside hfirst, .blockTag (beq_iff_eq.mp haccept)⟩
    · obtain ⟨callee, hused, haccept⟩ := firstArgumentOf_iff_used.mp h
      exact ⟨_, hused, .block (beq_iff_eq.mp haccept)⟩
  | templateFileReference =>
    rw [accepts, isFileReference, Bool.and_eq_true, Bool.or_eq_true] at h
    obtain ⟨hkind, h | h⟩ := h
    · obtain ⟨tag, hused, haccept⟩ := operandOf_iff_used.mp ⟨hkind, h⟩
      exact ⟨_, hused, .fileTag (List.contains_iff_mem.mp haccept)⟩
    · obtain ⟨callee, hused, haccept⟩ := firstArgumentOf_iff_used.mp ⟨hkind, h⟩
      exact ⟨_, hused, .file (List.contains_iff_mem.mp haccept)⟩
  | routeNameReference =>
    rw [accepts, isRouteName, Bool.and_eq_true] at h
    obtain ⟨callee, hused, haccept⟩ := firstArgumentOf_iff_used.mp h
    exact ⟨_, hused, .route (List.contains_iff_mem.mp haccept)⟩
  | translationDomainArgument =>
    rw [accepts, isTranslationDomain, Bool.and_eq_true, Bool.or_eq_true] at h
    obtain ⟨hkind, h | h⟩ := h
    · obtain ⟨tag, hused, haccept⟩ := operandOf_iff_used.mp ⟨hkind, h⟩
      exact ⟨_, hused, .domainTag (beq_iff_eq.mp haccept)⟩
    · simp only [Option.any_eq_true, Bool.and_eq_true, beq_iff_eq] at h
      obtain ⟨⟨callee, opening, position, filter⟩, hcall, rfl, hname⟩ := h
      exact ⟨_, .argument hkind hcall, .domain hname⟩
  | translationKeyReference =>
    rw [accepts, isTranslationKey, Bool.and_eq_true, Bool.or_eq_true] at h
    obtain ⟨hkind, h | h⟩ := h
    · exact ⟨_, transFilter?_iff_used.mp ⟨hkind, h⟩, .filter rfl⟩
    · obtain ⟨callee, hused, haccept⟩ := firstArgumentOf_iff_used.mp ⟨hkind, h⟩
      exact ⟨_, hused, .key (beq_iff_eq.mp haccept)⟩

/-- A use of a token makes the role accept it. -/
theorem accepts_of_used {r : Role} {u : Use} (hused : d.Used t u) (hserves : Serves names u r) :
    d.accepts names t r = true := by
  cases hserves with
  | blockTag h =>
    cases hused with
    | named hkind hinside hfirst =>
      have hoperand : d.isOperandOf (names.blockFunction == ·) t = true :=
        isOperandOf_iff.mpr ⟨_, hinside, beq_iff_eq.mpr h, hfirst⟩
      rw [accepts, isBlockReference, hkind, hoperand, Bool.and_self, Bool.true_or]
  | fileTag h =>
    obtain ⟨hkind, hoperand⟩ := operandOf_iff_used.mpr ⟨_, hused, List.contains_iff_mem.mpr h⟩
    rw [accepts, isFileReference, hkind, hoperand, Bool.true_or, Bool.and_self]
  | domainTag h =>
    obtain ⟨hkind, hoperand⟩ := operandOf_iff_used.mpr ⟨_, hused, beq_iff_eq.mpr h⟩
    rw [accepts, isTranslationDomain, isDomainOperand, hkind, hoperand, Bool.true_or, Bool.and_self]
  | block h =>
    obtain ⟨hkind, hfirst⟩ := firstArgumentOf_iff_used.mpr ⟨_, hused, beq_iff_eq.mpr h⟩
    rw [accepts, isBlockReference, hkind, hfirst, Bool.and_self, Bool.or_true]
  | file h =>
    obtain ⟨hkind, hfirst⟩ := firstArgumentOf_iff_used.mpr ⟨_, hused, List.contains_iff_mem.mpr h⟩
    rw [accepts, isFileReference, hkind, hfirst, Bool.or_true, Bool.and_self]
  | route h =>
    obtain ⟨hkind, hfirst⟩ := firstArgumentOf_iff_used.mpr ⟨_, hused, List.contains_iff_mem.mpr h⟩
    rw [accepts, isRouteName, hkind, hfirst, Bool.and_self]
  | key h =>
    obtain ⟨hkind, hfirst⟩ := firstArgumentOf_iff_used.mpr ⟨_, hused, beq_iff_eq.mpr h⟩
    rw [accepts, isTranslationKey, hkind, hfirst, Bool.or_true, Bool.and_self]
  | domain h =>
    cases hused with
    | argument hkind hcall =>
      rw [accepts, isTranslationDomain, hkind, hcall, Option.any_some, beq_iff_eq.mpr h]
      simp
  | filter h =>
    obtain ⟨hkind, hbehind⟩ := transFilter?_iff_used.mpr (h ▸ hused)
    rw [accepts, isTranslationKey, hkind, hbehind, Bool.true_or, Bool.and_self]

/-- **The roles of templates, characterised**: a role accepts the tokens that have a use for it. -/
theorem accepts_iff_used {r : Role} (hr : r.dialect = .template) :
    d.accepts names t r = true ↔ ∃ u, d.Used t u ∧ Serves names u r := by
  constructor
  · exact exists_used_of_accepts hr
  · rintro ⟨u, hused, hserves⟩
    exact accepts_of_used hused hserves

/-! ## One use, with one exception -/

/-- A node has one kind. -/
theorem kind_eq_of_isKind {k k' : NodeKind} (h : d.isKind k t = true) (h' : d.isKind k' t = true) :
    k = k' := by
  simp only [isKind, Option.any_eq_true, decide_eq_true_eq] at h h'
  obtain ⟨node, hnode, rfl⟩ := h
  obtain ⟨node', hnode', rfl⟩ := h'
  rw [hnode] at hnode'
  rw [Option.some.inj hnode']

/-- A node of any other kind is no mark. -/
theorem isPunct_of_isKind {k : NodeKind} (hk : k ≠ .punct) (h : d.isKind k t = true)
    (mark : String) : d.isPunct mark t = false := by
  refine isPunct_eq_false_of_isKind ?_ mark
  rw [Bool.eq_false_iff]
  intro hpunct
  exact hk (kind_eq_of_isKind h hpunct)

/-- The marks around a whole argument. -/
theorem around_of_enclosingCall? {call : Call} (h : d.enclosingCall? t = some call) :
    (d.prevSignificant? t).any d.beginsArgument = true
      ∧ (d.nextSignificant? t).any d.endsArgument = true := by
  simp only [enclosingCall?, Option.bind_eq_bind, Option.bind_eq_some_iff,
    Option.ite_none_left_eq_some, Bool.not_eq_eq_eq_not, Bool.not_true, Bool.not_eq_false] at h
  obtain ⟨before, hbefore, after, hafter, hleft, hright, -⟩ := h
  rw [hbefore, hafter]
  exact ⟨hleft, hright⟩

/-- An argument is no operand of a tag, since a mark stands before it. -/
theorem isTagOperand_of_enclosingCall? {call : Call} (h : d.enclosingCall? t = some call)
    (tag : String) : d.isTagOperand tag t = false := by
  have hbefore := (around_of_enclosingCall? h).1
  rw [isTagOperand]
  cases hprev : d.prevSignificant? t with
  | none => rfl
  | some prev =>
    rw [hprev, Option.any_some] at hbefore
    rw [Option.any_some, Bool.and_eq_false_imp]
    intro hkind
    rw [beginsArgument, isPunct_of_isKind (by decide) hkind, isPunct_of_isKind (by decide) hkind]
      at hbefore
    cases hbefore

/-- An argument is not filtered, since a mark of the call stands after it. -/
theorem nextSignificant?_of_enclosingCall? {call : Call} (h : d.enclosingCall? t = some call)
    {next : NodeId} (hnext : d.nextSignificant? t = some next) : d.isPunct "|" next = false := by
  have hafter := (around_of_enclosingCall? h).2
  rw [hnext, Option.any_some, endsArgument_iff] at hafter
  rcases hafter with hmark | hmark
  · exact isPunct_eq_of_isPunct hmark _
  · exact isPunct_eq_of_isPunct hmark _

/-- **A token has one use**, unless it is the operand of a tag and put through a filter. -/
theorem Used.eq_or_filtered_operand {u v : Use} (hu : d.Used t u) (hv : d.Used t v) :
    u = v ∨ (∃ tag filter, u = .operand tag ∧ v = .filtered filter)
      ∨ ∃ tag filter, u = .filtered filter ∧ v = .operand tag := by
  cases hu with
  | named hkind hinside _ =>
    cases hv with
    | named _ hinside' _ =>
      rw [hinside] at hinside'
      exact .inl (by rw [Option.some.inj hinside'])
    | operand hkind' => cases kind_eq_of_isKind hkind hkind'
    | argument hkind' => cases kind_eq_of_isKind hkind hkind'
    | filtered hkind' => cases kind_eq_of_isKind hkind hkind'
  | operand hkind hinside hfirst =>
    cases hv with
    | named hkind' => cases kind_eq_of_isKind hkind hkind'
    | operand _ hinside' _ =>
      rw [hinside] at hinside'
      exact .inl (by rw [Option.some.inj hinside'])
    | argument _ hcall =>
      rw [isTagOperand_of_enclosingCall? hcall] at hfirst
      cases hfirst
    | filtered => exact .inr (.inl ⟨_, _, rfl, rfl⟩)
  | argument hkind hcall =>
    cases hv with
    | named hkind' => cases kind_eq_of_isKind hkind hkind'
    | operand _ _ hfirst =>
      rw [isTagOperand_of_enclosingCall? hcall] at hfirst
      cases hfirst
    | argument _ hcall' =>
      rw [hcall] at hcall'
      cases hcall'
      exact .inl rfl
    | filtered _ hbehind hmark =>
      rw [nextSignificant?_of_enclosingCall? hcall hbehind] at hmark
      cases hmark
  | filtered hkind hbehind hmark hnext =>
    cases hv with
    | named hkind' => cases kind_eq_of_isKind hkind hkind'
    | operand => exact .inr (.inr ⟨_, _, rfl, rfl⟩)
    | argument _ hcall =>
      rw [nextSignificant?_of_enclosingCall? hcall hbehind] at hmark
      cases hmark
    | filtered _ hbehind' _ hnext' =>
      rw [hbehind] at hbehind'
      cases hbehind'
      rw [hnext] at hnext'
      cases hnext'
      exact .inl rfl

/-! ## One role for each use -/

/-- The first argument of a function has one role: the name of the function is in one list only. -/
theorem Serves.unique_of_function (h : names.Apart) {callee : String} {r s : Role}
    (hr : Serves names (.argument callee 0 false) r)
    (hs : Serves names (.argument callee 0 false) s) : r = s := by
  have hfunctions := h.functions
  simp only [List.pairwise_cons, List.mem_cons, forall_eq_or_imp, List.disjoint_left,
    List.not_mem_nil, or_false, forall_eq, false_imp_iff, implies_true, and_true,
    List.Pairwise.nil] at hfunctions
  cases hr <;> cases hs <;> grind

/-- **A use serves one role.** -/
theorem Serves.unique (h : names.Apart) {u : Use} {r s : Role} (hr : Serves names u r)
    (hs : Serves names u s) : r = s := by
  cases hr with
  | blockTag => cases hs; rfl
  | fileTag hr =>
    cases hs with
    | fileTag => rfl
    | domainTag hs => exact absurd (hs ▸ hr) h.tags
  | domainTag hr =>
    cases hs with
    | fileTag hs => exact absurd (hr ▸ hs) h.tags
    | domainTag => rfl
  | block hr => exact unique_of_function h (.block hr) hs
  | file hr => exact unique_of_function h (.file hr) hs
  | route hr => exact unique_of_function h (.route hr) hs
  | key hr => exact unique_of_function h (.key hr) hs
  | domain => cases hs; rfl
  | filter => cases hs; rfl

/-! ## Tokens with several roles -/

/-- The accepting roles are those of the dialect that accept the token. -/
theorem mem_acceptingRoles {r : Role} :
    r ∈ d.acceptingRoles names t ↔ r.dialect = d.dialect ∧ d.accepts names t r = true := by
  have hall : r ∈ Role.all := by cases r <;> decide
  rw [acceptingRoles, List.mem_filter, Bool.and_eq_true, decide_eq_true_eq]
  exact and_iff_right hall

/-- No role is listed twice, so there is at most one if any two are the same. -/
theorem length_acceptingRoles_le_one_iff :
    (d.acceptingRoles names t).length ≤ 1 ↔
      ∀ r ∈ d.acceptingRoles names t, ∀ s ∈ d.acceptingRoles names t, r = s := by
  have hnodup : (d.acceptingRoles names t).Nodup := List.Nodup.filter _ (by decide)
  rw [← List.toFinset_card_of_nodup hnodup, Finset.card_le_one]
  simp only [List.mem_toFinset]

/-- A string that a file tag or the domain tag takes, put through the translating filter. -/
structure TranslatedOperand (d : Document) (names : TemplateSettings) (t : NodeId) : Prop where
  string : d.isKind .stringLiteral t = true
  operand : d.isOperandOf names.fileTags.contains t = true ∨ d.isDomainOperand names t = true
  translated : (d.transFilter? names t).isSome = true

/-- Such a string has the role that its tag gives it and that of a key. -/
theorem TranslatedOperand.exists_two_roles (h : d.TranslatedOperand names t) :
    ∃ r, r.dialect = .template ∧ d.accepts names t r = true
      ∧ d.accepts names t .translationKeyReference = true ∧ r ≠ .translationKeyReference := by
  have hkey : d.accepts names t .translationKeyReference = true :=
    accepts_of_used (transFilter?_iff_used.mp ⟨h.string, h.translated⟩) (.filter rfl)
  rcases h.operand with hoperand | hoperand
  · obtain ⟨tag, hused, htag⟩ := operandOf_iff_used.mp ⟨h.string, hoperand⟩
    have hfile := accepts_of_used hused (.fileTag (List.contains_iff_mem.mp htag))
    exact ⟨.templateFileReference, rfl, hfile, hkey, by decide⟩
  · obtain ⟨tag, hused, htag⟩ := operandOf_iff_used.mp ⟨h.string, hoperand⟩
    have hdomain := accepts_of_used hused (.domainTag (beq_iff_eq.mp htag))
    exact ⟨.translationDomainArgument, rfl, hdomain, hkey, by decide⟩

/-- The one way to have two roles: the operand of a tag that is translated at the same time. -/
theorem translatedOperand_of_used {tag filter : String} {r s : Role}
    (hoperand : d.Used t (.operand tag)) (hr : Serves names (.operand tag) r)
    (hfiltered : d.Used t (.filtered filter)) (hs : Serves names (.filtered filter) s) :
    d.TranslatedOperand names t := by
  cases hs with
  | filter hname =>
    obtain ⟨hkind, htranslated⟩ := transFilter?_iff_used.mpr (hname ▸ hfiltered)
    refine ⟨hkind, ?_, htranslated⟩
    cases hr with
    | fileTag h =>
      exact .inl (operandOf_iff_used.mpr ⟨tag, hoperand, List.contains_iff_mem.mpr h⟩).2
    | domainTag h => exact .inr (operandOf_iff_used.mpr ⟨tag, hoperand, beq_iff_eq.mpr h⟩).2

/-- **Which tokens of a template have one role at most.** As long as the names for different things
are different names, all of them but translated operands: their tag gives them one role, and the
filter another. -/
theorem at_most_one_role_iff (hd : d.dialect = .template) (hnames : names.Apart) :
    (d.acceptingRoles names t).length ≤ 1 ↔ ¬ d.TranslatedOperand names t := by
  rw [length_acceptingRoles_le_one_iff]
  simp only [mem_acceptingRoles, hd]
  constructor
  · intro hunique h
    obtain ⟨r, hr, haccepts, hkey, hne⟩ := h.exists_two_roles
    exact hne (hunique r ⟨hr, haccepts⟩ .translationKeyReference ⟨rfl, hkey⟩)
  · rintro hnot r ⟨hr, hacceptr⟩ s ⟨hs, haccepts⟩
    obtain ⟨u, hu, hur⟩ := (accepts_iff_used hr).mp hacceptr
    obtain ⟨v, hv, hvs⟩ := (accepts_iff_used hs).mp haccepts
    -- the two uses are one, which serves one role, or they are the exception
    rcases hu.eq_or_filtered_operand hv with rfl | ⟨tag, filter, rfl, rfl⟩ | ⟨tag, filter, rfl, rfl⟩
    · exact hur.unique hnames hvs
    · exact absurd (translatedOperand_of_used hu hur hv hvs) hnot
    · exact absurd (translatedOperand_of_used hv hvs hu hur) hnot

/-- A page that extends `base` and includes the translation of `menu`. -/
def translatedInclude : Document :=
  build ⟨"page.html"⟩ .template [.open .tagBlock "extends", .ident "extends", .space, .string "base",
    .close, .open .tagBlock "include", .ident "include", .space, .string "menu", .punct "|",
    .ident "trans", .close]

/-- With the names that are used unless others are set, `base` has one role and `menu` has not. -/
theorem at_most_one_role_iff_include :
    Settings.default.templates.Apart
      ∧ (translatedInclude.acceptingRoles Settings.default.templates 4).length ≤ 1
      ∧ ¬ (translatedInclude.acceptingRoles Settings.default.templates 8).length ≤ 1 := by
  have hnames : Settings.default.templates.Apart := ⟨by simp [Settings.default], by decide⟩
  refine ⟨hnames, ?_, ?_⟩
  · rw [at_most_one_role_iff rfl hnames]
    intro h
    exact absurd h.translated (by decide +kernel)
  · rw [at_most_one_role_iff rfl hnames, Classical.not_not]
    exact ⟨by decide +kernel, .inl (by decide +kernel), by decide +kernel⟩

/-- The two roles of `menu`, in a document whose links agree. -/
theorem translated_include_has_two_roles :
    translatedInclude.linkDefect? = none ∧ Settings.default.templates.Apart
      ∧ translatedInclude.acceptingRoles Settings.default.templates 8
        = [.templateFileReference, .translationKeyReference] := by
  refine ⟨by decide +kernel, ⟨by simp [Settings.default], by decide⟩, by decide +kernel⟩

end Document

end Signpost
