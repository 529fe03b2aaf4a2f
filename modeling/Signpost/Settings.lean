/-
`Settings.lean` -- settings.

What a user can set: whether the library answers at all, where the index is, how calls are encoded,
which names the template dialect uses, and how far chains are followed.

Specification: B.4.
-/
import Signpost.Container

set_option autoImplicit false

namespace Signpost

/-- How calls are encoded. -/
structure SignatureSettings where
  /-- Separates the signature of a call from its argument. -/
  delimiter : Char := Signature.defaultDelimiter
  /-- Calls with any other number of arguments are not encoded. -/
  expectedArgumentCount : UInt64 := 1
  deriving DecidableEq, Repr

/-- The names that the template dialect uses. -/
structure TemplateSettings where
  /-- The filter and function that translates. -/
  transFunction : String := "trans"
  /-- The translation domain of a template that names none. -/
  defaultDomain : String := "messages"
  /-- The tag that sets the domain for the rest of a template. -/
  defaultDomainTag : String := "trans_default_domain"
  /-- The functions whose first argument is a route name. -/
  routeFunctions : List String := ["path", "url"]
  /-- The tags whose operand is a template file. -/
  fileTags : List String := ["extends", "include", "embed", "import", "from", "use"]
  /-- The functions whose first argument is a template file. -/
  fileFunctions : List String := ["include", "source"]
  /-- The tag and the function that name a block. -/
  blockFunction : String := "block"
  deriving DecidableEq, Repr

/-- How far chains are followed. -/
structure ContainerSettings where
  /-- The number of alias hops before a service is given up. -/
  maxAliasDepth : UInt64 := 8
  /-- The number of parent classes searched for a constructor. -/
  maxParentDepth : UInt64 := 8
  deriving DecidableEq, Repr

/-- The settings of a project. -/
structure Settings where
  version : UInt32 := 1
  debug : Bool := false
  /-- When this is off, no token has a role. -/
  enabled : Bool := true
  /-- The snapshot of the index. -/
  indexPath : Path := ⟨".frameref/index.json"⟩
  /-- The directory that relative paths start from. -/
  workspaceRoot : Option Path := none
  signatures : SignatureSettings := {}
  templates : TemplateSettings := {}
  container : ContainerSettings := {}
  deriving DecidableEq, Repr

namespace Settings

/-- The settings of a project that sets nothing. -/
def default : Settings := {}

/-- The snapshot of the index, seen from the workspace root if its path is relative. -/
def resolvedIndexPath (s : Settings) : Path :=
  match s.workspaceRoot with
  | some root => root.join s.indexPath
  | none => s.indexPath

end Settings

end Signpost
