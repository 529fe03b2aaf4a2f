/-
`Index/Record.lean` -- what the index is told.

The definitions of services and parameters, classes with their constructors, templates with their
blocks, and routes, as an indexer reports them.
-/
import Signpost.Declaration

set_option autoImplicit false

namespace Signpost

/-- A definition of a container service. -/
structure ServiceDefinition where
  id : String
  className : Option String
  /-- The id of the service that this one is another name of. -/
  aliasOf : Option String
  location : Option Location
  deriving DecidableEq, Repr

/-- A definition of a container parameter. -/
structure ParameterDefinition where
  key : String
  /-- The value, if it is a plain one. -/
  value : Option String
  location : Option Location
  deriving DecidableEq, Repr

/-- An argument of a constructor. -/
structure ArgumentInfo where
  name : String
  typeHint : Option String
  default : Option String
  deriving DecidableEq, Repr

/-- A class. -/
structure ClassInfo where
  name : String
  location : Location
  parent : Option String
  /-- The arguments of the constructor, if the class declares one itself. -/
  constructor : Option (List ArgumentInfo)
  deriving DecidableEq, Repr

/-- The declaration of a class. -/
def ClassInfo.declaration (c : ClassInfo) : Declaration :=
  .classDef (ClassName.normalize c.name) c.location

/-- A block that a template declares. -/
structure BlockInfo where
  name : String
  location : Location
  deriving DecidableEq, Repr

/-- A template and its blocks. -/
structure Template where
  /-- The name used in references. -/
  name : String
  location : Location
  blocks : List BlockInfo
  deriving DecidableEq, Repr

/-- A named route. -/
structure Route where
  name : String
  /-- What the route calls, usually `Class::method`. -/
  controller : Option String
  path : Option String
  deriving DecidableEq, Repr

/-! ## Keys

Services and parameters are found under a normal form of the name that a reference gives. -/

/-- The text under which a service is found. -/
structure ServiceKey where
  text : String
  deriving DecidableEq, Repr

/-- The key of a service id: without blanks, quotes, one `@` and one namespace separator in front,
in lowercase. An id of which nothing is left has no key. -/
def ServiceKey.ofText? (raw : String) : Option ServiceKey :=
  let bare := Text.trim (Text.dropOne '@' (Text.unquote (Text.trim raw)))
  let bare := Text.dropOne ClassName.separator bare
  if bare.isEmpty then none else some ⟨Text.lower bare⟩

/-- The text under which a parameter is found. -/
structure ParameterKey where
  text : String
  deriving DecidableEq, Repr

/-- The key of a parameter: without blanks, quotes and the `%` around it, in lowercase. A text of
which nothing is left has no key. -/
def ParameterKey.ofText? (raw : String) : Option ParameterKey :=
  let bare := Text.trim (Text.dropAround '%' (Text.unquote (Text.trim raw)))
  if bare.isEmpty then none else some ⟨Text.lower bare⟩

end Signpost
