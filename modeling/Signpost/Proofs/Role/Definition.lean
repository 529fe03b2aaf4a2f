/-
`Proofs/Role/Definition.lean` -- roles in service definitions.

Four roles share the tokens of service definitions, and each of them tests a token in its own way:
two take blanks and quotes off the text and look at what is left, one follows the links upwards, one
looks for a mark and then for what stands behind it. That no two of them accept one token can be
seen without going into any of this. `sign?` is what the tests have in common, a function of the
token: whether it is a key, whether it stands under `class`, and else the first character of its
bare text. Every role asks for a sign of its own, `sign?_of_accepts`, and a token has only one.

The first character is enough to tell the two references apart, whatever quotes and blanks stand
around them: both roles take off the same ones before they look.

Specification: 4.4.
-/
import Signpost.Proofs.Role.Use

set_option autoImplicit false

namespace Signpost

/-! ## References in texts -/

namespace Reference

theorem head?_of_service? {text id : String} (h : service? text = some id) :
    (Text.unquote (Text.trim text)).toList.head? = some '@' := by
  unfold service? at h
  split at h
  · cases h
  · cases h
  · next htext => rw [htext]; rfl
  · cases h

theorem head?_of_isParameter {text : String} (h : isParameter text = true) :
    text.toList.head? = some '%' := by
  unfold isParameter at h
  split at h
  · next htext => rw [htext]; rfl
  · cases h

/-- No text refers to a service and to a parameter, whatever blanks and quotes it has around it. -/
theorem isParameter_of_service? {text id : String} (h : service? text = some id) :
    isParameter (Text.unquote (Text.trim text)) = false := by
  rw [Bool.eq_false_iff]
  intro hparameter
  have hhead := head?_of_isParameter hparameter
  rw [head?_of_service? h] at hhead
  exact absurd hhead (by decide)

end Reference

/-! ## Signs -/

/-- What a role of service definitions tells a token by. -/
inductive Sign where
  | key
  | classValue
  /-- A value elsewhere, by the first character of its bare text. -/
  | marked (c : Char)
  deriving DecidableEq

/-- The sign that a role asks for. Roles of templates ask for none. -/
def Role.sign? : Role → Option Sign
  | .classNameValue => some .classValue
  | .serviceReferenceValue => some (.marked '@')
  | .parameterReferenceValue => some (.marked '%')
  | .serviceIdKey => some .key
  | _ => none

theorem Role.eq_of_sign? {r s : Role} (hr : r.dialect = .config) (hs : s.dialect = .config)
    (h : r.sign? = s.sign?) : r = s := by
  have hall : ∀ r ∈ Role.all, ∀ s ∈ Role.all, r.dialect = .config → s.dialect = .config →
      r.sign? = s.sign? → r = s := by decide
  exact hall r (by cases r <;> decide) s (by cases s <;> decide) hr hs h

namespace Document

variable {d : Document} {names : TemplateSettings} {t : NodeId}

/-- The sign that a token has. -/
def sign? (d : Document) (t : NodeId) : Option Sign :=
  if d.isKind .key t then some .key
  else if d.isKind .scalar t then
    if d.underClassKey t then some .classValue else (d.bareText t).toList.head?.map .marked
  else none

theorem sign?_of_key (h : d.isKind .key t = true) : d.sign? t = some .key := by
  rw [sign?, if_pos h]

theorem sign?_of_scalar (h : d.isKind .scalar t = true) :
    d.sign? t = if d.underClassKey t then some .classValue
      else (d.bareText t).toList.head?.map .marked := by
  have hkey : ¬ d.isKind .key t = true := fun hkey => by cases kind_eq_of_isKind h hkey
  rw [sign?, if_neg hkey, if_pos h]

theorem sign?_of_marked {c : Char} (h : d.isKind .scalar t = true)
    (hclass : d.underClassKey t = false) (hhead : (d.bareText t).toList.head? = some c) :
    d.sign? t = some (.marked c) := by
  rw [sign?_of_scalar h, hclass, hhead]
  rfl

/-- **A role accepts only tokens with its sign.** -/
theorem sign?_of_accepts {r : Role} (hr : r.dialect = .config) (h : d.accepts names t r = true) :
    d.sign? t = r.sign? := by
  cases r with
  | classNameValue =>
    simp only [accepts, isClassNameValue, Bool.and_eq_true] at h
    obtain ⟨⟨⟨hkind, hclass⟩, -⟩, -⟩ := h
    rw [sign?_of_scalar hkind, if_pos hclass, Role.sign?]
  | serviceReferenceValue =>
    simp only [accepts, isServiceReference, Bool.and_eq_true, Bool.not_eq_true',
      Option.isSome_iff_exists] at h
    obtain ⟨⟨hkind, hclass⟩, id, hid⟩ := h
    exact sign?_of_marked hkind hclass (Reference.head?_of_service? hid)
  | parameterReferenceValue =>
    simp only [accepts, isParameterReference, Bool.and_eq_true, Bool.not_eq_true'] at h
    obtain ⟨⟨hkind, hclass⟩, hparameter⟩ := h
    exact sign?_of_marked hkind hclass (Reference.head?_of_isParameter hparameter)
  | serviceIdKey =>
    simp only [accepts, isServiceIdKey, Bool.and_eq_true] at h
    obtain ⟨⟨⟨hkind, -⟩, -⟩, -⟩ := h
    exact sign?_of_key hkind
  | templateBlockReference => cases hr
  | templateFileReference => cases hr
  | routeNameReference => cases hr
  | translationDomainArgument => cases hr
  | translationKeyReference => cases hr

/-! ## One role at most -/

/-- The role of a token is the first of those that accept it. -/
theorem classify?_eq_head? : d.classify? names t = (d.acceptingRoles names t).head? := by
  rw [classify?, acceptingRoles, List.head?_filter]

/-- **Roles in service definitions exclude each other.** At most one role accepts a token, and that
is the role it is given. No text refers to a service and to a parameter, and a value under `class`
refers to neither. -/
theorem definition_roles_exclude_each_other (hdialect : d.dialect = .config)
    (names : TemplateSettings) (t : NodeId) :
    (d.acceptingRoles names t).length ≤ 1
      ∧ d.acceptingRoles names t = (d.classify? names t).toList
      ∧ (∀ text, ¬ ((Reference.service? text).isSome = true
        ∧ Reference.isParameter (Text.unquote (Text.trim text)) = true))
      ∧ (d.underClassKey t = true → .serviceReferenceValue ∉ d.acceptingRoles names t
        ∧ .parameterReferenceValue ∉ d.acceptingRoles names t) := by
  have hlength : (d.acceptingRoles names t).length ≤ 1 := by
    rw [length_acceptingRoles_le_one_iff]
    simp only [mem_acceptingRoles, hdialect]
    rintro r ⟨hr, hacceptr⟩ s ⟨hs, haccepts⟩
    have hsign : r.sign? = s.sign? :=
      (sign?_of_accepts hr hacceptr).symm.trans (sign?_of_accepts hs haccepts)
    exact Role.eq_of_sign? hr hs hsign
  refine ⟨hlength, ?_, ?_, ?_⟩
  · rw [classify?_eq_head?]
    cases hroles : d.acceptingRoles names t with
    | nil => rfl
    | cons r rest =>
      rw [hroles, List.length_cons] at hlength
      rw [List.eq_nil_of_length_eq_zero (l := rest) (by omega)]
      rfl
  · rintro text ⟨hservice, hparameter⟩
    obtain ⟨id, hid⟩ := Option.isSome_iff_exists.mp hservice
    rw [Reference.isParameter_of_service? hid] at hparameter
    cases hparameter
  · intro hclass
    simp [mem_acceptingRoles, accepts, isServiceReference, isParameterReference, hclass]

/-- A definition whose class value looks like a reference to a service, and with a parameter that
has a no-break space before its quotes and a space behind them. -/
def paddedDefinition : Document :=
  build ⟨"services.yaml"⟩ .config [.keyValue "services", .open .mapping "", .keyValue "app.mailer",
    .open .mapping "", .scalarEntry "class" "'@mailer'",
    .scalarEntry "sender" "\u00a0\"%mailer.sender%\" "]

/-- The id, the class value and the parameter have one role each, the one that they are given. -/
theorem definition_roles_exclude_each_other_padded :
    paddedDefinition.acceptingRoles Settings.default.templates 5 = [.serviceIdKey]
      ∧ paddedDefinition.acceptingRoles Settings.default.templates 9 = [.classNameValue]
      ∧ paddedDefinition.acceptingRoles Settings.default.templates 12
        = [.parameterReferenceValue] := by
  have hroles := fun t => (definition_roles_exclude_each_other (d := paddedDefinition) rfl
    Settings.default.templates t).2.1
  rw [hroles, hroles, hroles]
  exact ⟨by decide +kernel, by decide +kernel, by decide +kernel⟩

end Document

end Signpost
