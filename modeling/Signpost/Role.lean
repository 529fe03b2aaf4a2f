/-
`Role.lean` -- roles of tokens.

The ways in which a token can refer to something declared elsewhere. Each role belongs to one
dialect; a token is offered to the roles of its document's dialect in their fixed order, and the
first that accepts it is its role.

Specification: 4.4.
-/
import Signpost.Role.Config
import Signpost.Role.Template

set_option autoImplicit false

namespace Signpost

/-- What a token refers to. -/
inductive Role where
  | classNameValue
  | serviceReferenceValue
  | parameterReferenceValue
  | serviceIdKey
  | templateBlockReference
  | templateFileReference
  | routeNameReference
  | translationDomainArgument
  | translationKeyReference
  deriving DecidableEq, Repr

namespace Role

/-- All roles in the order in which they are tried. -/
def all : List Role :=
  [.classNameValue, .serviceReferenceValue, .parameterReferenceValue, .serviceIdKey,
    .templateBlockReference, .templateFileReference, .routeNameReference,
    .translationDomainArgument, .translationKeyReference]

/-- The dialect in which a role occurs. -/
def dialect : Role → Dialect
  | .classNameValue | .serviceReferenceValue | .parameterReferenceValue | .serviceIdKey => .config
  | .templateBlockReference | .templateFileReference | .routeNameReference
  | .translationDomainArgument | .translationKeyReference => .template

/-- The words of a role. -/
def words : Role → List String
  | .classNameValue => ["class", "name", "value"]
  | .serviceReferenceValue => ["service", "reference", "value"]
  | .parameterReferenceValue => ["parameter", "reference", "value"]
  | .serviceIdKey => ["service", "id", "key"]
  | .templateBlockReference => ["template", "block", "reference"]
  | .templateFileReference => ["template", "file", "reference"]
  | .routeNameReference => ["route", "name", "reference"]
  | .translationDomainArgument => ["translation", "domain", "argument"]
  | .translationKeyReference => ["translation", "key", "reference"]

/-- The name of a role as it is shown. -/
def label (r : Role) : String := "-".intercalate r.words

/-- The name of a role as it is written in data. -/
def tag (r : Role) : String := "_".intercalate r.words

end Role

/-! ## Classifying tokens -/

namespace Document

/-- Whether a token has the shape of a role. -/
def accepts (d : Document) (names : TemplateSettings) (id : NodeId) : Role → Bool
  | .classNameValue => d.isClassNameValue id
  | .serviceReferenceValue => d.isServiceReference id
  | .parameterReferenceValue => d.isParameterReference id
  | .serviceIdKey => d.isServiceIdKey id
  | .templateBlockReference => d.isBlockReference names id
  | .templateFileReference => d.isFileReference names id
  | .routeNameReference => d.isRouteName names id
  | .translationDomainArgument => d.isTranslationDomain names id
  | .translationKeyReference => d.isTranslationKey names id

/-- All roles that accept a token, in order. -/
def acceptingRoles (d : Document) (names : TemplateSettings) (id : NodeId) : List Role :=
  Role.all.filter fun r => r.dialect = d.dialect && d.accepts names id r

/-- The role of a token. -/
def classify? (d : Document) (names : TemplateSettings) (id : NodeId) : Option Role :=
  Role.all.find? fun r => r.dialect = d.dialect && d.accepts names id r

end Document

end Signpost
