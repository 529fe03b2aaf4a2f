/-
`Declaration.lean` -- declarations.

Every answer of the library is a declaration: one kind for each thing that can be gone to, with just
what is needed to show it and to go there. Two declarations are identical when kind, names and place
agree, places being compared by the components of their paths. Class-level declarations have a
signature, a text that names them across the project.

A fully qualified class name may be written with namespace separators in front and blanks around.
The normal form has neither in front; class names are compared in lowercase of it.

Specification: 3 and B.6, item 3.
-/
import Signpost.Text.Lowercase
import Signpost.Location
import Signpost.Collection

set_option autoImplicit false

namespace Signpost

/-! ## Class names -/

namespace ClassName

/-- The namespace separator. -/
def separator : Char := '\\'

/-- The name without blanks around it and then without separators in front. -/
def normalize (name : String) : String := Text.dropLeading separator (Text.trim name)

/-- The text under which a class is found. -/
def key (name : String) : String := Text.lower (normalize name)

/-- The last part of the name. -/
def short (name : String) : String := Text.lastPart separator (normalize name)

end ClassName

/-! ## Kinds of declarations -/

/-- A thing that can be gone to. -/
inductive Declaration where
  | classDef (name : String) (location : Location)
  | method (owner name : String) (location : Location)
  | field (owner name : String) (location : Location)
  | constant (owner name : String) (location : Location)
  | templateBlock (name template : String) (location : Location)
  | templateFile (name : String) (location : Location)
  | translationEntry (domain key : String) (location : Location)
  | translationDomain (domain : String) (location : Location)
  | parameter (key : String) (location : Location)
  deriving DecidableEq, Inhabited, Repr

namespace Declaration

/-- The nine kinds. -/
inductive Kind where
  | classDef
  | method
  | field
  | constant
  | templateBlock
  | templateFile
  | translationEntry
  | translationDomain
  | parameter
  deriving DecidableEq, Repr

/-- The word shown for a kind. -/
def Kind.label : Kind → String
  | .classDef => "class"
  | .method => "method"
  | .field => "field"
  | .constant => "constant"
  | .templateBlock => "block"
  | .templateFile => "template"
  | .translationEntry => "translation"
  | .translationDomain => "domain"
  | .parameter => "parameter"

/-- The kind of a declaration. -/
def kind : Declaration → Kind
  | .classDef .. => .classDef
  | .method .. => .method
  | .field .. => .field
  | .constant .. => .constant
  | .templateBlock .. => .templateBlock
  | .templateFile .. => .templateFile
  | .translationEntry .. => .translationEntry
  | .translationDomain .. => .translationDomain
  | .parameter .. => .parameter

/-- The texts that name a declaration of its kind. -/
def names : Declaration → List String
  | .classDef name _ => [name]
  | .method owner name _ => [owner, name]
  | .field owner name _ => [owner, name]
  | .constant owner name _ => [owner, name]
  | .templateBlock name template _ => [name, template]
  | .templateFile name _ => [name]
  | .translationEntry domain key _ => [domain, key]
  | .translationDomain domain _ => [domain]
  | .parameter key _ => [key]

/-- Where a declaration stands. -/
def location : Declaration → Location
  | .classDef _ l => l
  | .method _ _ l => l
  | .field _ _ l => l
  | .constant _ _ l => l
  | .templateBlock _ _ l => l
  | .templateFile _ l => l
  | .translationEntry _ _ l => l
  | .translationDomain _ l => l
  | .parameter _ l => l

/-! ## Identity -/

/-- What tells a declaration from any other. -/
structure Identity where
  kind : Kind
  names : List String
  place : Location.Identity
  deriving DecidableEq

/-- What tells this declaration from any other. -/
def identity (d : Declaration) : Identity := ⟨d.kind, d.names, d.location.identity⟩

/-- Declarations without identical ones, in first-seen order. -/
def distinct (ds : List Declaration) : List Declaration := distinctBy identity ds

/-! ## Signatures -/

/-- The signature of a class. -/
def classSignature (name : String) : String := "#C\\" ++ ClassName.normalize name

/-- The signature of a method. -/
def methodSignature (owner name : String) : String :=
  "#M#C\\" ++ ClassName.normalize owner ++ "." ++ name

/-- The signature of a field, whose name may be written with its `$`. -/
def fieldSignature (owner name : String) : String :=
  "#P#C\\" ++ ClassName.normalize owner ++ "." ++ Text.dropLeading '$' name

/-- The signature of a constant. -/
def constantSignature (owner name : String) : String :=
  "#K#C\\" ++ ClassName.normalize owner ++ "." ++ name

/-- The signature of a class-level declaration. -/
def signature? : Declaration → Option String
  | .classDef name _ => some (classSignature name)
  | .method owner name _ => some (methodSignature owner name)
  | .field owner name _ => some (fieldSignature owner name)
  | .constant owner name _ => some (constantSignature owner name)
  | _ => none

/-! ## Display -/

/-- The name shown for a declaration. -/
def displayName : Declaration → String
  | .classDef name _ => ClassName.normalize name
  | .method owner name _ => ClassName.normalize owner ++ "::" ++ name ++ "()"
  | .field owner name _ => ClassName.normalize owner ++ "::$" ++ name
  | .constant owner name _ => ClassName.normalize owner ++ "::" ++ name
  | .templateBlock name template _ => "block " ++ name ++ " in " ++ template
  | .templateFile name _ => name
  | .translationEntry domain key _ => domain ++ ":" ++ key
  | .translationDomain domain _ => domain
  | .parameter key _ => "%" ++ key ++ "%"

/-- The line shown for a declaration. -/
def display (d : Declaration) : String :=
  d.kind.label ++ " " ++ d.displayName ++ " at " ++ d.location.display

end Declaration

end Signpost
