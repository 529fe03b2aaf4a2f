/-
`Container.lean` -- the service container.

Services are found by id and lead to a class, possibly through other names of the service;
parameters lead to a plain value. Where the index holds several definitions under one key, the first
in its order counts. Alias chains are followed for a bounded number of hops, so a circle ends
without an answer.

Specification: 4.3 and B.6, items 5 to 8 and 12.
-/
import Signpost.Signature.Call
import Signpost.Signature.Resolve

set_option autoImplicit false

namespace Signpost

/-! ## References in texts -/

namespace Reference

/-- Whether a text is `%name%` with a non-empty name free of `%` and blanks. -/
def isParameter (s : String) : Bool :=
  match s.toList with
  | '%' :: rest =>
    rest.getLast? == some '%' && !rest.dropLast.isEmpty
      && rest.dropLast.all fun c => c != '%' && !Text.isBlank c
  | _ => false

/-- The service id behind `@id` or `@?id`. Escaped texts (`@@`), expressions (`@=`) and texts
without the mark name no service. -/
def service? (s : String) : Option String :=
  match (Text.unquote (Text.trim s)).toList with
  | '@' :: '@' :: _ => none
  | '@' :: '=' :: _ => none
  | '@' :: rest =>
    let id := Text.trimChars (Text.dropOneChars '?' rest)
    if id.isEmpty then none else some (.ofList id)
  | _ => none

end Reference

/-- The container of an index, with its bound on alias hops. -/
structure Container where
  index : Lookups
  maxAliasDepth : Nat

namespace Container

/-- The bound on alias hops unless the settings name another. -/
def defaultDepth : Nat := 8

/-- The definition that counts for a service id. -/
def service? (c : Container) (id : String) : Option ServiceDefinition :=
  (ServiceKey.ofText? id).bind fun key => (c.index.servicesAt key).head?

/-- The definition that counts for a parameter. -/
def parameter? (c : Container) (key : String) : Option ParameterDefinition :=
  (ParameterKey.ofText? key).bind fun key => (c.index.parametersAt key).head?

/-- The value of a parameter. -/
def parameterValue? (c : Container) (key : String) : Option String :=
  (c.parameter? key).bind ParameterDefinition.value

/-- The class that a text names, a `%parameter%` standing for its value. -/
def className? (c : Container) (raw : String) : Option String :=
  let text := Text.unquote (Text.trim raw)
  if text.isEmpty then none
  else if Reference.isParameter text then (c.parameterValue? text).map ClassName.normalize
  else some (ClassName.normalize text)

/-- What one definition says of the class of its service. -/
inductive Lead where
  /-- The definition names a class, as written. -/
  | classText (text : String)
  /-- The definition is another name of this id. -/
  | otherService (id : String)
  /-- The id itself is the class name. -/
  | idAsClass (name : String)
  | nothing
  deriving DecidableEq, Repr

/-- What a definition says of its class: a class that is not blank, then an alias, then an id with a
namespace separator. -/
def lead (d : ServiceDefinition) : Lead :=
  match d.className.filter fun text => !(Text.trim text).isEmpty with
  | some text => .classText text
  | none =>
    match d.aliasOf with
    | some id => .otherService id
    | none => if d.id.toList.contains ClassName.separator then .idAsClass d.id else .nothing

/-- The class of a definition, following at most `hops` aliases. -/
def classOf? (c : Container) : Nat → ServiceDefinition → Option String
  | hops, d =>
    match lead d with
    | .classText text => c.className? text
    | .idAsClass name => some (ClassName.normalize name)
    | .nothing => none
    | .otherService id =>
      match hops with
      | 0 => none
      | hops + 1 => (c.service? id).bind (c.classOf? hops)

/-- The class that implements a service. -/
def serviceClass? (c : Container) (id : String) : Option String :=
  (c.service? id).bind (c.classOf? c.maxAliasDepth)

/-- The class that one alternative of an encoded signature stands for. -/
def branchClass? (c : Container) (delimiter : Char) (branch : String) : Option String := do
  let (_, argument) ← Signature.split? delimiter branch
  let id ← c.index.literal? argument
  c.serviceClass? id

/-- The classes that an encoded signature stands for, in first-seen order. -/
def signatureClasses (c : Container) (signature : String) (delimiter : Char) : List String :=
  distinctBy id
    (((Signature.branches signature).filter (!·.isEmpty)).filterMap (c.branchClass? delimiter))

/-- The classes that a call stands for. -/
def callClasses (c : Container) (call : CallSite) (delimiter : Char) (expected : Nat) :
    List String :=
  match call.encode? delimiter expected with
  | some signature => c.signatureClasses signature delimiter
  | none => []

/-- The indexed class that a text names. -/
def resolvedClass? (c : Container) (raw : String) : Option ClassInfo :=
  (c.className? raw).bind c.index.class?

end Container

end Signpost
