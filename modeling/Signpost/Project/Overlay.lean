/-
`Project/Overlay.lean` -- overlays.

A text shown beside a token: the constructor of the class that it names, the class of the service or
the value of the parameter that it refers to. A class without a constructor of its own shows that of
the nearest ancestor that has one, within a bounded number of steps.

Specification: 4.5 and B.6, items 7 and 9.
-/
import Signpost.Project.Goto

set_option autoImplicit false

namespace Signpost

/-- How a constructor argument is shown. -/
def ArgumentInfo.display (a : ArgumentInfo) : String :=
  let hint := match a.typeHint with
    | some hint => if hint.isEmpty then "" else hint ++ " "
    | none => ""
  let mark := if Text.startsWith '$' a.name then "" else "$"
  let default := match a.default with
    | some value => " = " ++ value
    | none => ""
  hint ++ mark ++ a.name ++ default

namespace Lookups

/-- The constructor of a class or of one of its nearest `bound` ancestors. -/
def constructor? (i : Lookups) : Nat → ClassInfo → Option (List ArgumentInfo)
  | bound, c =>
    match c.constructor with
    | some arguments => some arguments
    | none =>
      match bound with
      | 0 => none
      | bound + 1 => (c.parent.bind i.class?).bind (i.constructor? bound)

/-- How the construction of a class is shown. -/
def constructorSummary (i : Lookups) (c : ClassInfo) (bound : Nat) : String :=
  ClassName.short c.name ++ "("
    ++ ", ".intercalate (((i.constructor? bound c).getD []).map ArgumentInfo.display) ++ ")"

end Lookups

/-- A text beside a token. -/
structure Overlay where
  text : String
  /-- The span of the token. -/
  anchor : Span
  deriving DecidableEq, Repr

namespace Project

/-- The construction of the class that a text names. -/
def classOverlay? (p : Project) (raw : String) : Option String :=
  (p.container.resolvedClass? raw).map fun c =>
    p.index.constructorSummary c p.settings.container.maxParentDepth.toNat

/-- The construction of the class of the service definition that an id opens. -/
def serviceIdOverlay? (p : Project) (d : Document) (key : NodeId) : Option String :=
  match d.siblingClassValue? key with
  | some value => p.classOverlay? (d.textOf value)
  | none => (p.container.serviceClass? (Text.unquote (d.textOf key))).bind p.classOverlay?

/-- The text beside a token of the given role. -/
def overlayText? (p : Project) (d : Document) (id : NodeId) : Role → Option String
  | .classNameValue => p.classOverlay? (d.textOf id)
  | .serviceReferenceValue => (Reference.service? (d.textOf id)).bind p.container.serviceClass?
  | .parameterReferenceValue => p.container.parameterValue? (d.textOf id)
  | .serviceIdKey => p.serviceIdOverlay? d id
  | _ => none

/-- The overlay of a token. -/
def overlay? (p : Project) (d : Document) (id : NodeId) : Option Overlay :=
  ((p.role? d id).bind (p.overlayText? d id)).map fun text => ⟨text, d.spanOf id⟩

/-- The overlay of the token under a caret. -/
def overlayAt? (p : Project) (d : Document) (offset : UInt32) : Option Overlay :=
  (d.tokenAt? offset).bind (p.overlay? d)

end Project

end Signpost
