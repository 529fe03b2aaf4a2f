/-
`Proofs/Project/Distinct.lean` -- answers without repetitions.

An answer is meant as a set: the same declaration, up to the spelling of its path, should not be in
it twice. Each way of going to a declaration sees to this by itself, if at all:

* one declaration at most cannot be repeated;
* what is found by signature was entered once for each identity, and the alternatives of a union are
  merged by identity;
* the entries of a translation key are kept as they came and merged when they are asked for;
* the files of a translation domain are kept as they came as well, and nobody merges them;
* the blocks of different templates differ by the name of the template, and those of one template
  are handed on as the template lists them.

So an answer repeats itself in the last two cases only, and `Unrepeated` says just when.

Specification: 3.
-/
import Signpost.Document.Links
import Signpost.Proofs.Project.Goto
import Mathlib.Data.List.Nodup

set_option autoImplicit false

namespace Signpost

theorem Declaration.nodup_distinct (ds : List Declaration) :
    ((distinct ds).map identity).Nodup := by
  unfold distinct
  rw [distinctBy_eq_keepFirst]
  exact nodup_map_keepFirst identity ds

namespace Index

/-- A type names no declaration twice, be it a union or not. -/
theorem nodup_byType (log : List Entry) (signature : String) :
    (((ofEntries log).lookups.byType signature).map Declaration.identity).Nodup := by
  unfold Lookups.byType
  split
  · exact Declaration.nodup_distinct _
  · exact nodup_bySignature log signature

end Index

namespace Project

variable {p : Project} {d : Document} {t : NodeId} {targets : List Declaration}

/-- What was told leaves the answers to a token of the role and text without repetitions: no
template lists two blocks of that name at one place, and no two files of the domain are at one
place. -/
def Unrepeated (log : List Entry) (text : String) : Role → Prop
  | .templateBlockReference => ∀ template ∈ (Index.ofEntries log).allTemplates,
    ((template.blocks.filter (·.name == text)).map (·.location.identity)).Nodup
  | .translationDomainArgument =>
    (((log.filterMap Entry.domainFile?).filter fun x => x.domain? = some text).map
      (·.location.identity)).Nodup
  | _ => True

instance (log : List Entry) (text : String) : DecidablePred (Unrepeated log text)
  | .templateBlockReference => inferInstanceAs (Decidable (∀ template ∈ _, _))
  | .translationDomainArgument => inferInstanceAs (Decidable (List.Nodup _))
  | .classNameValue | .serviceReferenceValue | .parameterReferenceValue | .serviceIdKey
  | .templateFileReference | .routeNameReference | .translationKeyReference =>
    inferInstanceAs (Decidable True)

/-! ## Blocks -/

theorem map_identity_blocksOf (name : String) (template : Template) :
    (blocksOf name template).map Declaration.identity
      = ((template.blocks.filter (·.name == name)).map (·.location.identity)).map
          (Declaration.Identity.mk .templateBlock [name, template.name]) := by
  unfold blocksOf
  rw [List.map_map, List.map_map]
  refine List.map_congr_left fun b hb => ?_
  have hname : b.name = name := beq_iff_eq.mp (List.mem_filter.mp hb).2
  show Declaration.identity (.templateBlock b.name template.name b.location) = _
  rw [hname]
  rfl

/-- **Blocks are repeated within a template or not at all.** -/
theorem nodup_blocks_iff {i : Index} (hi : i.templates.KeyedBy Template.name) (name : String) :
    ((i.allTemplates.flatMap (blocksOf name)).map Declaration.identity).Nodup
      ↔ ∀ template ∈ i.allTemplates,
        ((template.blocks.filter (·.name == name)).map (·.location.identity)).Nodup := by
  have hapart : i.allTemplates.Pairwise
      (Function.onFun List.Disjoint fun x => (blocksOf name x).map Declaration.identity) := by
    refine (Index.pairwise_allTemplates hi).imp ?_
    intro a b hlt
    have hne : a.name ≠ b.name := fun heq => String.lt_irrefl _ (heq ▸ hlt)
    simp only [Function.onFun, map_identity_blocksOf]
    intro x hxa hxb
    obtain ⟨_, -, rfl⟩ := List.mem_map.mp hxa
    obtain ⟨_, -, hsame⟩ := List.mem_map.mp hxb
    have hnames := congrArg Declaration.Identity.names hsame
    simp only [List.cons.injEq, and_true, true_and] at hnames
    exact hne hnames.symm
  rw [List.map_flatMap, List.nodup_flatMap, and_iff_left hapart]
  refine forall₂_congr fun template _ => ?_
  rw [map_identity_blocksOf]
  exact List.nodup_map_iff fun _ _ heq => (Declaration.Identity.mk.inj heq).2.2

/-! ## Files of a domain -/

theorem identity_of_domain? {x : Declaration} {domain : String} (h : x.domain? = some domain) :
    x.identity = ⟨.translationDomain, [domain], x.location.identity⟩ := by
  cases x with
  | translationDomain name location =>
    cases h
    rfl
  | _ => cases h

/-- **Files of a domain are told apart by their places**, and each is there as often as it was
told. -/
theorem nodup_filesOf_iff (log : List Entry) (domain : String) :
    (((Index.ofEntries log).filesOf domain).map Declaration.identity).Nodup
      ↔ Unrepeated log domain .translationDomainArgument := by
  have hidentity : ((Index.ofEntries log).filesOf domain).map Declaration.identity
      = (((log.filterMap Entry.domainFile?).filter fun x => x.domain? = some domain).map
          (·.location.identity)).map (Declaration.Identity.mk .translationDomain [domain]) := by
    rw [Index.filesOf_ofEntries, List.map_map]
    refine List.map_congr_left fun x hx => ?_
    exact identity_of_domain? (of_decide_eq_true (List.mem_filter.mp hx).2)
  rw [hidentity]
  exact List.nodup_map_iff fun _ _ heq => (Declaration.Identity.mk.inj heq).2.2

/-! ## All roles -/

theorem nodup_of_classTarget? {raw : String} (h : p.classTarget? raw = some targets) :
    (targets.map Declaration.identity).Nodup := by
  obtain ⟨c, -, rfl⟩ := classTarget?_eq_some_iff.mp h
  exact List.nodup_singleton _

theorem nodup_of_routeTargets? {log : List Entry} {settings : Settings} {name : String}
    (h : (Project.mk (Index.ofEntries log) settings).routeTargets? name = some targets) :
    (targets.map Declaration.identity).Nodup := by
  rw [routeTargets?_eq_some_iff] at h
  obtain ⟨route, -, ⟨-, hnil⟩ | ⟨owner, method, -, hmethods⟩⟩ := h
  · rw [hnil]
    exact List.nodup_nil
  · rw [hmethods]
    exact Index.nodup_byType log _

theorem nodup_iff_of_targets? {log : List Entry} {settings : Settings} {role : Role}
    (h : (Project.mk (Index.ofEntries log) settings).targets? d t role = some targets) :
    (targets.map Declaration.identity).Nodup ↔ Unrepeated log (d.textOf t) role := by
  cases role <;> rw [targets?] at h
  case classNameValue => exact iff_of_true (nodup_of_classTarget? h) trivial
  case serviceReferenceValue =>
    obtain ⟨id, -, htarget⟩ := Option.bind_eq_some_iff.mp h
    obtain ⟨name, -, htarget⟩ := serviceTarget?_eq_some_iff.mp htarget
    exact iff_of_true (nodup_of_classTarget? htarget) trivial
  case parameterReferenceValue =>
    obtain ⟨definition, location, -, -, rfl⟩ := parameterTarget?_eq_some_iff.mp h
    exact iff_of_true (List.nodup_singleton _) trivial
  case serviceIdKey =>
    obtain ⟨raw, htarget⟩ := exists_classTarget?_of_serviceIdTarget? h
    exact iff_of_true (nodup_of_classTarget? htarget) trivial
  case templateBlockReference =>
    rw [blockTargets?] at h
    obtain ⟨rfl, -⟩ := nonEmpty?_eq_some_iff.mp h
    exact nodup_blocks_iff (Index.keyedBy_templates log) (d.textOf t)
  case templateFileReference =>
    obtain ⟨template, -, rfl⟩ := fileTarget?_eq_some_iff.mp h
    exact iff_of_true (List.nodup_singleton _) trivial
  case routeNameReference => exact iff_of_true (nodup_of_routeTargets? h) trivial
  case translationDomainArgument =>
    obtain ⟨rfl, -⟩ := domainTargets?_eq_some h
    exact nodup_filesOf_iff log (d.textOf t)
  case translationKeyReference =>
    obtain ⟨rfl, -⟩ := nonEmpty?_eq_some_iff.mp h
    exact iff_of_true (Declaration.nodup_distinct _) trivial

/-- **When go-to answers without repetitions.** In the index of any log, whatever the settings and
the document, an answer means that the token has a role, and the declarations in the answer are all
different exactly when the log leaves them so: always, unless the token names a block that some
template lists twice at one place or a domain of which some file was told twice. -/
theorem targets_distinct_iff_unrepeated (log : List Entry) (settings : Settings) (d : Document)
    (t : NodeId) {targets : List Declaration}
    (h : (Project.mk (Index.ofEntries log) settings).goto? d t = some targets) :
    ∃ role, (Project.mk (Index.ofEntries log) settings).role? d t = some role
      ∧ ((targets.map Declaration.identity).Nodup ↔ Unrepeated log (d.textOf t) role) := by
  obtain ⟨role, hrole, htargets⟩ := Option.bind_eq_some_iff.mp h
  exact ⟨role, hrole, nodup_iff_of_targets? htargets⟩

/-- A page that names its translation domain and prints a block. -/
def domainPage : Document :=
  .build ⟨"page.html"⟩ .template [.open .tagBlock "trans_default_domain",
    .ident "trans_default_domain", .space, .string "admin", .close, .ident "block", .punct "(",
    .string "menu", .punct ")"]

/-- The file of the domain, at a path as it is written. -/
def domainFile (path : String) : Declaration := .translationDomain "admin" ⟨⟨path⟩, none⟩

/-- A block of the layout. -/
def menuBlock : BlockInfo := ⟨"menu", ⟨⟨"layout.html"⟩, none⟩⟩

/-- A project that was told of one file twice, with its path spelled in two ways, and of a layout
that lists its block twice. -/
def repeatedProject : Project where
  index := Index.ofEntries [.domainFile (domainFile "a/b.yaml"), .domainFile (domainFile "a//b.yaml"),
    .template ⟨"layout.html", ⟨⟨"layout.html"⟩, none⟩, [menuBlock, menuBlock]⟩]
  settings := .default

/-- A project with two files of the domain. -/
def spreadProject : Project where
  index := Index.ofEntries [.domainFile (domainFile "a/b.yaml"), .domainFile (domainFile "a/c.yaml")]
  settings := .default

/-- Two different files are two different answers. -/
theorem targets_distinct_iff_unrepeated_files :
    let targets := [domainFile "a/b.yaml", domainFile "a/c.yaml"]
    spreadProject.goto? domainPage 4 = some targets
      ∧ (targets.map Declaration.identity).Nodup := by
  intro targets
  have h : spreadProject.goto? domainPage 4 = some targets := by decide +kernel
  obtain ⟨role, hrole, hiff⟩ := targets_distinct_iff_unrepeated _ _ _ _ h
  have hdomain : spreadProject.role? domainPage 4 = some .translationDomainArgument := by
    decide +kernel
  obtain rfl := Option.some.inj (hrole.symm.trans hdomain)
  exact ⟨h, hiff.mpr (by decide +kernel)⟩

/-- One file of a domain is answered twice, and so is one block of a template. -/
theorem repeated_declarations_are_answered :
    domainPage.linkDefect? = none
      ∧ (∃ targets, repeatedProject.goto? domainPage 4 = some targets
        ∧ ¬ (targets.map Declaration.identity).Nodup)
      ∧ ∃ targets, repeatedProject.goto? domainPage 7 = some targets
        ∧ ¬ (targets.map Declaration.identity).Nodup := by
  refine ⟨by decide +kernel, ⟨[domainFile "a/b.yaml", domainFile "a//b.yaml"], ?_, ?_⟩,
    ⟨[.templateBlock "menu" "layout.html" menuBlock.location,
      .templateBlock "menu" "layout.html" menuBlock.location], ?_, ?_⟩⟩
  all_goals decide +kernel

end Project

end Signpost
