/-
`Role/Config.lean` -- references in service definitions.

A plain value under the key `class` names a class; any other plain value may refer to a service
(`@id`) or a parameter (`%name%`). A key directly below `services` is the id of a service, unless it
starts with an underscore.

Specification: 4.4 and B.6, items 5 and 6.
-/
import Signpost.Document.Navigation
import Signpost.Container

set_option autoImplicit false

namespace Signpost.Document

/-- The key of the pair that a token is in. -/
def valueKey? (d : Document) (id : NodeId) : Option String :=
  (d.parentOfKind? .keyValue id).map fun pair => Text.unquote (d.textOf pair)

/-- The text of a token without blanks and quotes around it. -/
def bareText (d : Document) (id : NodeId) : String := Text.unquote (Text.trim (d.textOf id))

/-- Whether a token stands under the key `class`. -/
def underClassKey (d : Document) (id : NodeId) : Bool := d.valueKey? id == some "class"

/-- Whether a token is the name of a class. -/
def isClassNameValue (d : Document) (id : NodeId) : Bool :=
  d.isKind .scalar id && d.underClassKey id && !(d.bareText id).isEmpty
    && !(d.bareText id).toList.contains '\n'

/-- Whether a token refers to a service. -/
def isServiceReference (d : Document) (id : NodeId) : Bool :=
  d.isKind .scalar id && !d.underClassKey id && (Reference.service? (d.textOf id)).isSome

/-- Whether a token refers to a parameter. -/
def isParameterReference (d : Document) (id : NodeId) : Bool :=
  d.isKind .scalar id && !d.underClassKey id && Reference.isParameter (d.bareText id)

/-- The pair that a key directly below `services` opens. -/
def serviceDefinitionOf? (d : Document) (key : NodeId) : Option NodeId := do
  let definition ← d.parentOfKind? .keyValue key
  let body ← d.parentOfKind? .mapping definition
  let services ← d.parentOfKind? .keyValue body
  if Text.unquote (d.textOf services) == "services" then some definition else none

/-- Whether a token is the id of a service definition. -/
def isServiceIdKey (d : Document) (id : NodeId) : Bool :=
  d.isKind .key id && !(d.bareText id).isEmpty && !Text.startsWith '_' (d.bareText id)
    && (d.serviceDefinitionOf? id).isSome

/-- The value under `class` in the definition that a service id opens. -/
def siblingClassValue? (d : Document) (key : NodeId) : Option NodeId := do
  let definition ← d.serviceDefinitionOf? key
  let pairs := ((d.childrenOf definition).filter (d.isKind .mapping)).flatMap d.childrenOf
  let pair ← pairs.find? fun pair =>
    d.isKind .keyValue pair && Text.unquote (d.textOf pair) == "class"
  (d.childrenOf pair).find? (d.isKind .scalar)

end Signpost.Document
