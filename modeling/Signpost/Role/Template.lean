/-
`Role/Template.lean` -- references in templates.

Tags and calls name blocks, files, routes and translations. Which tags and functions do so is up to
the settings. A translation key is looked up in the domain that its own call names, else in the
domain of the last domain tag before it, else in the default one.

Specification: 4.4 and B.6, item 10.
-/
import Signpost.Role.Call
import Signpost.Settings

set_option autoImplicit false

namespace Signpost.Document

/-- The name of the tag that a token is directly in. -/
def tagName? (d : Document) (id : NodeId) : Option String :=
  (d.parentOfKind? .tagBlock id).map d.textOf

/-- Whether a token is the first operand of the tag. -/
def isTagOperand (d : Document) (tag : String) (id : NodeId) : Bool :=
  (d.prevSignificant? id).any fun t => d.isKind .identifier t && d.textOf t == tag

/-- Whether a token is the first operand of a tag with an accepted name. -/
def isOperandOf (d : Document) (accept : String → Bool) (id : NodeId) : Bool :=
  (d.tagName? id).any fun tag => accept tag && d.isTagOperand tag id

/-- Whether a token is the first argument of a function with an accepted name. -/
def isFirstArgumentOf (d : Document) (accept : String → Bool) (id : NodeId) : Bool :=
  (d.enclosingCall? id).any fun call =>
    call.position == 0 && !call.filter && accept (d.textOf call.callee)

/-- Whether a token names a block. -/
def isBlockReference (d : Document) (names : TemplateSettings) (id : NodeId) : Bool :=
  (d.isKind .identifier id && d.isOperandOf (names.blockFunction == ·) id)
    || (d.isKind .stringLiteral id && d.isFirstArgumentOf (names.blockFunction == ·) id)

/-- Whether a token names a template file. -/
def isFileReference (d : Document) (names : TemplateSettings) (id : NodeId) : Bool :=
  d.isKind .stringLiteral id
    && (d.isOperandOf names.fileTags.contains id
      || d.isFirstArgumentOf names.fileFunctions.contains id)

/-- Whether a token names a route. -/
def isRouteName (d : Document) (names : TemplateSettings) (id : NodeId) : Bool :=
  d.isKind .stringLiteral id && d.isFirstArgumentOf names.routeFunctions.contains id

/-- Whether a token is the operand of the tag that sets the domain. -/
def isDomainOperand (d : Document) (names : TemplateSettings) (id : NodeId) : Bool :=
  d.isOperandOf (names.defaultDomainTag == ·) id

/-- Whether a token names a translation domain. -/
def isTranslationDomain (d : Document) (names : TemplateSettings) (id : NodeId) : Bool :=
  d.isKind .stringLiteral id
    && (d.isDomainOperand names id
      || (d.enclosingCall? id).any fun call =>
        call.position == 2 && names.transFunction == d.textOf call.callee)

/-- The translating filter that a token is put through. -/
def transFilter? (d : Document) (names : TemplateSettings) (id : NodeId) : Option NodeId := do
  let bar ← (d.nextSignificant? id).filter (d.isPunct "|")
  (d.nextSignificant? bar).filter fun t =>
    d.isKind .identifier t && names.transFunction == d.textOf t

/-- Whether a token is a translation key. -/
def isTranslationKey (d : Document) (names : TemplateSettings) (id : NodeId) : Bool :=
  d.isKind .stringLiteral id
    && ((d.transFilter? names id).isSome || d.isFirstArgumentOf (names.transFunction == ·) id)

/-- The tag that sets the domain around a token, or the callee that takes it as third argument. -/
def domainOwner? (d : Document) (names : TemplateSettings) (id : NodeId) : Option String :=
  (d.tagName? id).filter (names.defaultDomainTag == ·)
    <|> ((d.enclosingCall? id).filter (·.position == 2)).map fun call => d.textOf call.callee

/-- The text of an argument that is a single string. -/
def stringArgument? (d : Document) (arguments : List (List NodeId)) (position : Nat) :
    Option String :=
  match arguments[position]? with
  | some [t] => if d.isKind .stringLiteral t then some (d.textOf t) else none
  | _ => none

/-- The domain that the call of a translation key names. -/
def explicitDomain? (d : Document) (names : TemplateSettings) (key : NodeId) : Option String :=
  match d.transFilter? names key with
  | some filter => do
    let opening ← (d.nextSignificant? filter).filter (d.isPunct "(")
    d.stringArgument? (d.callArguments opening) 1
  | none => do
    let call ← (d.enclosingCall? key).filter fun call => names.transFunction == d.textOf call.callee
    d.stringArgument? (d.callArguments call.opening) 2

/-- The operands of domain tags that end before an offset. -/
def domainOperandsBefore (d : Document) (names : TemplateSettings) (offset : UInt32) :
    List NodeId :=
  d.leaves.filter fun t =>
    d.isKind .stringLiteral t && (d.spanOf t).stop ≤ offset && d.isDomainOperand names t

/-- The domain in which a translation key is looked up. -/
def translationDomain (d : Document) (names : TemplateSettings) (key : NodeId) : String :=
  match d.explicitDomain? names key with
  | some domain => domain
  | none =>
    match (d.domainOperandsBefore names (d.spanOf key).start).getLast? with
    | some operand => d.textOf operand
    | none => names.defaultDomain

end Signpost.Document
