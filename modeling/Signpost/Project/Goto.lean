/-
`Project/Goto.lean` -- going to declarations.

A project is everything that a question reads besides the token: the index and the settings. Going
to a declaration answers with those that the token refers to. No answer means that the token refers
to nothing known or that its target does not exist; the empty list is kept for references that exist
and lead nowhere one could go, such as a route without a `Class::method` controller.

Specification: 4.5 and B.6, item 11.
-/
import Signpost.Role

set_option autoImplicit false

namespace Signpost

/-- An index with the settings under which it is asked. -/
structure Project where
  index : Lookups
  settings : Settings

namespace Project

/-- The service container of a project. -/
def container (p : Project) : Container := ⟨p.index, p.settings.container.maxAliasDepth.toNat⟩

/-- The names that templates of the project use. -/
def names (p : Project) : TemplateSettings := p.settings.templates

/-- The role of a token; none when the library is switched off. -/
def role? (p : Project) (d : Document) (id : NodeId) : Option Role :=
  if p.settings.enabled then d.classify? p.names id else none

end Project

/-- The class and method of a controller, cut at the last `::`. -/
def Route.controllerMethod? (controller : String) : Option (String × String) := do
  let (owner, method) ← Text.cutLast? "::" (Text.trim controller)
  let owner := ClassName.normalize owner
  if owner.isEmpty || method.isEmpty then none else some (owner, method)

namespace Project

/-- The list, unless it is empty. -/
def nonEmpty? (ds : List Declaration) : Option (List Declaration) :=
  if ds.isEmpty then none else some ds

/-- The class that a text names. -/
def classTarget? (p : Project) (raw : String) : Option (List Declaration) :=
  (p.container.resolvedClass? raw).map fun c => [c.declaration]

/-- The class of a service. -/
def serviceTarget? (p : Project) (id : String) : Option (List Declaration) :=
  (p.container.serviceClass? id).bind p.classTarget?

/-- The place where a parameter is defined. -/
def parameterTarget? (p : Project) (raw : String) : Option (List Declaration) := do
  let definition ← p.container.parameter? raw
  let location ← definition.location
  return [.parameter definition.key location]

/-- The class of the service definition that an id opens. -/
def serviceIdTarget? (p : Project) (d : Document) (key : NodeId) : Option (List Declaration) :=
  match d.siblingClassValue? key with
  | some value => p.classTarget? (d.textOf value)
  | none => p.serviceTarget? (Text.unquote (d.textOf key))

/-- The blocks of a name that one template declares. -/
def blocksOf (name : String) (t : Template) : List Declaration :=
  (t.blocks.filter (·.name == name)).map fun b => .templateBlock b.name t.name b.location

/-- The blocks of a name in all templates. -/
def blockTargets? (p : Project) (name : String) : Option (List Declaration) :=
  nonEmpty? (p.index.allTemplates.flatMap (blocksOf name))

/-- The template file of a name. -/
def fileTarget? (p : Project) (name : String) : Option (List Declaration) :=
  (p.index.template? name).map fun t => [.templateFile t.name t.location]

/-- The methods that a route calls. -/
def routeTargets? (p : Project) (name : String) : Option (List Declaration) :=
  (p.index.route? name).map fun route =>
    match route.controller.bind Route.controllerMethod? with
    | some (owner, method) => p.index.byType (Declaration.methodSignature owner method)
    | none => []

/-- The files of the translation domain that a token names. -/
def domainTargets? (p : Project) (d : Document) (id : NodeId) : Option (List Declaration) := do
  let owner ← d.domainOwner? p.names id
  if p.names.transFunction == owner || p.names.defaultDomainTag == owner then
    nonEmpty? (p.index.filesOf (d.textOf id))
  else none

/-- The entries of a translation key in its domain. -/
def keyTargets? (p : Project) (d : Document) (id : NodeId) : Option (List Declaration) :=
  nonEmpty? (Declaration.distinct
    (p.index.translationsOf (d.translationDomain p.names id) (d.textOf id)))

/-- The declarations that a token of the given role refers to. -/
def targets? (p : Project) (d : Document) (id : NodeId) : Role → Option (List Declaration)
  | .classNameValue => p.classTarget? (d.textOf id)
  | .serviceReferenceValue => (Reference.service? (d.textOf id)).bind p.serviceTarget?
  | .parameterReferenceValue => p.parameterTarget? (d.textOf id)
  | .serviceIdKey => p.serviceIdTarget? d id
  | .templateBlockReference => p.blockTargets? (d.textOf id)
  | .templateFileReference => p.fileTarget? (d.textOf id)
  | .routeNameReference => p.routeTargets? (d.textOf id)
  | .translationDomainArgument => p.domainTargets? d id
  | .translationKeyReference => p.keyTargets? d id

/-- The declarations that a token refers to. -/
def goto? (p : Project) (d : Document) (id : NodeId) : Option (List Declaration) :=
  (p.role? d id).bind (p.targets? d id)

/-- The declarations that the token under a caret refers to. -/
def gotoAt? (p : Project) (d : Document) (offset : UInt32) : Option (List Declaration) :=
  (d.tokenAt? offset).bind (p.goto? d)

end Project

end Signpost
