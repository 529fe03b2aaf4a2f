/-
`Proofs/Project/DomainArgument.lean` -- domains and the calls that name them.

Whether a string names a translation domain is decided twice. Its role asks for the operand of the
domain tag or for the third argument of the translating function. Go-to asks once more who takes the
string, and there any string directly in a domain tag belongs to the tag, operand or not, and a
third argument to whatever is called. The second test accepts more than the first in one place and
asks for less in the other, so it can refuse nothing that the first has let through:
`domainOwner?_of_used`.

What keeps a third argument of some other function out is the role alone. Inside a domain tag the
second test would let it pass, under the name of the tag.

Specification: 4.5 and 8.
-/
import Signpost.Proofs.Project.ServiceDefinition

set_option autoImplicit false

namespace Signpost

namespace Document

variable {d : Document} {names : TemplateSettings} {t : NodeId}

/-- A string directly in the domain tag belongs to it, whatever else takes the string. -/
theorem domainOwner?_of_tagName? (h : d.tagName? t = some names.defaultDomainTag) :
    d.domainOwner? names t = some names.defaultDomainTag := by
  simp [domainOwner?, h]

/-- Anywhere else the third argument of a call belongs to what is called. -/
theorem domainOwner?_of_call {call : Call} (htag : d.tagName? t ≠ some names.defaultDomainTag)
    (hcall : d.enclosingCall? t = some call) (hposition : call.position = 2) :
    d.domainOwner? names t = some (d.textOf call.callee) := by
  have hnone : (d.tagName? t).filter (names.defaultDomainTag == ·) = none := by
    rw [Option.filter_eq_none_iff]
    intro tag htag' haccept
    exact htag (by rw [htag', beq_iff_eq.mp haccept])
  simp [domainOwner?, hnone, hcall, hposition]

/-- **Whatever the role accepts has an owner that go-to accepts**, the domain tag or the translating
function. -/
theorem domainOwner?_of_used {u : Use} (hused : d.Used t u)
    (hserves : Serves names u .translationDomainArgument) :
    d.domainOwner? names t = some names.defaultDomainTag
      ∨ d.domainOwner? names t = some names.transFunction := by
  by_cases htag : d.tagName? t = some names.defaultDomainTag
  · exact .inl (domainOwner?_of_tagName? htag)
  · right
    cases hserves with
    | domainTag h =>
      cases hused with
      | operand _ hinside _ => exact absurd (h ▸ hinside) htag
    | domain h =>
      cases hused with
      | argument _ hcall => rw [h, domainOwner?_of_call htag hcall rfl]

theorem domainOwner?_of_accepts (h : d.accepts names t .translationDomainArgument = true) :
    d.domainOwner? names t = some names.defaultDomainTag
      ∨ d.domainOwner? names t = some names.transFunction := by
  obtain ⟨u, hused, hserves⟩ := exists_used_of_accepts rfl h
  exact domainOwner?_of_used hused hserves

/-- An argument of another function names no domain unless the domain tag takes it. -/
theorem accepts_domain_of_call {call : Call} (hcall : d.enclosingCall? t = some call)
    (hcallee : d.textOf call.callee ≠ names.transFunction)
    (hoperand : d.isDomainOperand names t = false) :
    d.accepts names t .translationDomainArgument = false := by
  have hname : (names.transFunction == d.textOf call.callee) = false :=
    beq_eq_false_iff_ne.mpr hcallee.symm
  rw [accepts, isTranslationDomain, hoperand, hcall, Option.any_some, hname, Bool.and_false,
    Bool.or_false, Bool.and_false]

end Document

namespace Project

variable {p : Project} {d : Document} {t : NodeId}

theorem domainTargets?_of_accepts
    (h : d.accepts p.names t .translationDomainArgument = true) :
    p.domainTargets? d t = nonEmpty? (p.index.filesOf (d.textOf t)) := by
  rcases Document.domainOwner?_of_accepts h with howner | howner
  · simp [domainTargets?, howner]
  · simp [domainTargets?, howner]

/-- **The role of a domain and go-to agree.** A string with the role belongs to the domain tag or to
the translating function, so go-to never turns it away and answers with the files of the domain that
it names, if there are any. The third argument of another function that is no operand of the domain
tag never has the role, wherever it stands. -/
theorem domain_role_and_goto_agree (p : Project) (d : Document) (t : NodeId) :
    (d.classify? p.names t = some .translationDomainArgument →
      ∃ owner, d.domainOwner? p.names t = some owner
        ∧ (owner = p.names.transFunction ∨ owner = p.names.defaultDomainTag))
      ∧ (p.role? d t = some .translationDomainArgument →
        p.goto? d t = nonEmpty? (p.index.filesOf (d.textOf t)))
      ∧ ∀ call, d.isKind .stringLiteral t = true → d.enclosingCall? t = some call →
        call.position = 2 → d.textOf call.callee ≠ p.names.transFunction →
        d.isDomainOperand p.names t = false →
        .translationDomainArgument ∉ d.acceptingRoles p.names t
          ∧ d.classify? p.names t ≠ some .translationDomainArgument
          ∧ p.role? d t ≠ some .translationDomainArgument := by
  refine ⟨?_, ?_, ?_⟩
  · intro hrole
    rcases Document.domainOwner?_of_accepts (Document.accepts_of_classify? hrole).2 with
      howner | howner
    · exact ⟨_, howner, .inr rfl⟩
    · exact ⟨_, howner, .inl rfl⟩
  · intro hrole
    have hclassify := (role?_eq_some_iff.mp hrole).2
    rw [goto?, hrole, Option.bind_some, targets?,
      domainTargets?_of_accepts (Document.accepts_of_classify? hclassify).2]
  · intro call _ hcall _ hcallee hoperand
    have hnot := Document.accepts_domain_of_call hcall hcallee hoperand
    have hclassify : d.classify? p.names t ≠ some .translationDomainArgument := by
      intro hrole
      rw [(Document.accepts_of_classify? hrole).2] at hnot
      cases hnot
    refine ⟨?_, hclassify, fun hrole => hclassify (role?_eq_some_iff.mp hrole).2⟩
    intro hmem
    rw [(Document.mem_acceptingRoles.mp hmem).2] at hnot
    cases hnot

/-- A domain tag with an operand and, behind it, calls of another function and of the translating
one. -/
def taggedPage : Document :=
  .build ⟨"page.html"⟩ .template [.open .tagBlock "trans_default_domain",
    .ident "trans_default_domain", .space, .string "admin",
    .ident "format", .punct "(", .string "a", .punct ",", .string "b", .punct ",", .string "shop",
    .punct ")",
    .ident "trans", .punct "(", .string "a", .punct ",", .string "b", .punct ",", .string "shop",
    .punct ")"]

/-- The file of the domain `shop`. -/
def shopFile : Declaration := .translationDomain "shop" ⟨⟨"translations/shop.yaml"⟩, none⟩

/-- A project that knows the file. -/
def shopProject : Project where
  index := Index.ofEntries [.domainFile shopFile]
  settings := .default

/-- The domain that the translating function is given is found, and belongs to the tag all the same;
that of the tag has no file; and what the other function is given is no domain, though it belongs to
the tag as well. -/
theorem domain_role_and_goto_agree_tagged :
    shopProject.goto? taggedPage 19 = some [shopFile]
      ∧ taggedPage.domainOwner? shopProject.names 19 = some "trans_default_domain"
      ∧ shopProject.goto? taggedPage 4 = none
      ∧ shopProject.role? taggedPage 11 ≠ some .translationDomainArgument
      ∧ taggedPage.domainOwner? shopProject.names 11 = some "trans_default_domain" := by
  have hargument : shopProject.role? taggedPage 19 = some .translationDomainArgument := by
    decide +kernel
  have hoperand : shopProject.role? taggedPage 4 = some .translationDomainArgument := by
    decide +kernel
  have hcall : taggedPage.enclosingCall? 11 = some ⟨5, 6, 2, false⟩ := by decide +kernel
  refine ⟨?_, by decide +kernel, ?_, ?_, by decide +kernel⟩
  · rw [(domain_role_and_goto_agree _ _ _).2.1 hargument]
    decide +kernel
  · rw [(domain_role_and_goto_agree _ _ _).2.1 hoperand]
    decide +kernel
  · exact ((domain_role_and_goto_agree shopProject taggedPage 11).2.2 _ (by decide +kernel) hcall
      rfl (by decide +kernel) (by decide +kernel)).2.2

end Project

end Signpost
