/-
`Index.lean` -- the project index.

Everything the library knows of a project, in one table for each way of asking. The index is what a
sequence of entries leaves behind:

* class-level declarations are found by signature, each once, in the order of entry, with the last
  literal that was given for them;
* the definitions of a service or parameter are found under its key, the latest first;
* classes, templates and routes are replaced by later ones of the same name, classes being compared
  by lowercase name, and entering a class enters its declaration too;
* translations and the files of a translation domain are kept as they came.

An entry that has no place to go is refused and leaves the index as it was. What asks an index for
answers sees no tables, only the record of its look-ups.

Specification: 4.3, the look-ups in 6, and B.7.
-/
import Signpost.Index.Record
import Signpost.Collection

set_option autoImplicit false

namespace Signpost

/-- One thing told to the index. -/
inductive Entry where
  /-- A class-level declaration and its literal value, if it has one. -/
  | element (declaration : Declaration) (literal : Option String)
  | service (definition : ServiceDefinition)
  | parameter (definition : ParameterDefinition)
  | classInfo (info : ClassInfo)
  | template (template : Template)
  | route (route : Route)
  | translation (declaration : Declaration)
  | domainFile (declaration : Declaration)
  deriving DecidableEq, Repr

/-- The project index. -/
structure Index where
  elements : Table String (List Declaration) := ∅
  literals : Table Declaration.Identity String := ∅
  services : Table ServiceKey (List ServiceDefinition) := ∅
  parameters : Table ParameterKey (List ParameterDefinition) := ∅
  classes : Table String ClassInfo := ∅
  templates : Table String Template := ∅
  routes : Table String Route := ∅
  translations : Table (String × String) (List Declaration) := ∅
  domainFiles : Table String (List Declaration) := ∅

namespace Index

/-- The index that was told nothing. -/
def empty : Index := {}

/-! ## Entering -/

/-- Enters a declaration; refused if it has no signature. -/
def insertElement? (i : Index) (d : Declaration) (literal : Option String) : Option Index :=
  d.signature?.map fun signature =>
    { i with
      literals := match literal with
        | none => i.literals
        | some value => i.literals.insert d.identity value
      elements := i.elements.update signature fun ds =>
        insertBy Declaration.identity (ds.getD []) d }

/-- Enters a service definition in front of the others of its key; refused if it has no key. -/
def insertService? (i : Index) (d : ServiceDefinition) : Option Index :=
  (ServiceKey.ofText? d.id).map fun key =>
    { i with services := i.services.update key fun ds => d :: ds.getD [] }

/-- Enters a parameter definition in front of the others of its key; refused if it has no key. -/
def insertParameter? (i : Index) (d : ParameterDefinition) : Option Index :=
  (ParameterKey.ofText? d.key).map fun key =>
    { i with parameters := i.parameters.update key fun ds => d :: ds.getD [] }

/-- Enters a class and its declaration. -/
def insertClass (i : Index) (c : ClassInfo) : Index :=
  let i := (i.insertElement? c.declaration none).getD i
  { i with classes := i.classes.insert (ClassName.key c.name) c }

/-- Enters a template in place of an earlier one of its name. -/
def insertTemplate (i : Index) (t : Template) : Index :=
  { i with templates := i.templates.insert t.name t }

/-- Enters a route in place of an earlier one of its name. -/
def insertRoute (i : Index) (r : Route) : Index := { i with routes := i.routes.insert r.name r }

/-- Enters a translation; refused if the declaration is none. -/
def insertTranslation? (i : Index) (d : Declaration) : Option Index :=
  match d with
  | .translationEntry domain key _ => some
    { i with translations := i.translations.update (domain, key) fun ds => ds.getD [] ++ [d] }
  | _ => none

/-- Enters a file of a translation domain; refused if the declaration is none. -/
def insertDomainFile? (i : Index) (d : Declaration) : Option Index :=
  match d with
  | .translationDomain domain _ => some
    { i with domainFiles := i.domainFiles.update domain fun ds => ds.getD [] ++ [d] }
  | _ => none

/-- Enters one thing; none if it is refused. -/
def insert? (i : Index) : Entry → Option Index
  | .element d literal => i.insertElement? d literal
  | .service d => i.insertService? d
  | .parameter d => i.insertParameter? d
  | .classInfo c => some (i.insertClass c)
  | .template t => some (i.insertTemplate t)
  | .route r => some (i.insertRoute r)
  | .translation d => i.insertTranslation? d
  | .domainFile d => i.insertDomainFile? d

/-- Enters one thing; the index stays as it is if the entry is refused. -/
def insert (i : Index) (e : Entry) : Index := (i.insert? e).getD i

/-- The index that was told the given things in order. -/
def ofEntries (es : List Entry) : Index := es.foldl insert empty

@[simp] theorem ofEntries_nil : ofEntries [] = empty := rfl

/-- Entries may be told in two goes. -/
theorem ofEntries_append (es fs : List Entry) :
    ofEntries (es ++ fs) = fs.foldl insert (ofEntries es) := by
  simp only [ofEntries, List.foldl_append]

/-- One entry more is one insertion more. -/
theorem ofEntries_concat (es : List Entry) (e : Entry) :
    ofEntries (es ++ [e]) = (ofEntries es).insert e := by
  simp only [ofEntries_append, List.foldl_cons, List.foldl_nil]

/-! ## Asking

Each question is a look-up in one table. -/

/-- The declarations with a signature. -/
def bySignature (i : Index) (signature : String) : List Declaration :=
  (i.elements.find? signature).getD []

/-- The literal value of a declaration. -/
def literalOf? (i : Index) (d : Declaration) : Option String := i.literals.find? d.identity

/-- The definitions of a service, the latest first. -/
def servicesAt (i : Index) (key : ServiceKey) : List ServiceDefinition :=
  (i.services.find? key).getD []

/-- The definitions of a parameter, the latest first. -/
def parametersAt (i : Index) (key : ParameterKey) : List ParameterDefinition :=
  (i.parameters.find? key).getD []

/-- The class of a name, whatever its case and the separators in front. -/
def class? (i : Index) (name : String) : Option ClassInfo := i.classes.find? (ClassName.key name)

/-- All templates by increasing name. -/
def allTemplates (i : Index) : List Template :=
  i.templates.values.mergeSort fun a b => decide (a.name ≤ b.name)

/-- The template of a name. -/
def template? (i : Index) (name : String) : Option Template := i.templates.find? name

/-- The route of a name. -/
def route? (i : Index) (name : String) : Option Route := i.routes.find? name

/-- The translations of a key in a domain. -/
def translationsOf (i : Index) (domain key : String) : List Declaration :=
  (i.translations.find? (domain, key)).getD []

/-- The files of a translation domain. -/
def filesOf (i : Index) (domain : String) : List Declaration := (i.domainFiles.find? domain).getD []

/-! ## Statistics -/

/-- How much the index holds of each kind. -/
structure Stats where
  elements : Nat
  services : Nat
  parameters : Nat
  classes : Nat
  templates : Nat
  routes : Nat
  translations : Nat
  deriving DecidableEq, Repr

/-- How much the index holds of each kind. The files of translation domains are not counted. -/
def stats (i : Index) : Stats where
  elements := i.elements.values.flatten.length
  services := i.services.size
  parameters := i.parameters.size
  classes := i.classes.size
  templates := i.templates.size
  routes := i.routes.size
  translations := i.translations.values.flatten.length

/-- Whether all counts are zero. -/
def isEmpty (i : Index) : Bool := i.stats = ⟨0, 0, 0, 0, 0, 0, 0⟩

end Index

/-! ## Look-ups

What answers references asks these ten questions and nothing else, so it can stand on anything that
answers them. -/

/-- The questions that can be asked of an index, however the answers are kept. -/
structure Lookups where
  /-- The declarations with a signature. -/
  bySignature : String → List Declaration
  /-- The literal value of a declaration. -/
  literalOf? : Declaration → Option String
  /-- The definitions of a service, the one that counts first. -/
  servicesAt : ServiceKey → List ServiceDefinition
  /-- The definitions of a parameter, the one that counts first. -/
  parametersAt : ParameterKey → List ParameterDefinition
  /-- The class of a name. -/
  class? : String → Option ClassInfo
  /-- All templates. -/
  allTemplates : List Template
  /-- The template of a name. -/
  template? : String → Option Template
  /-- The route of a name. -/
  route? : String → Option Route
  /-- The translations of a key in a domain. -/
  translationsOf : (domain key : String) → List Declaration
  /-- The files of a translation domain. -/
  filesOf : String → List Declaration

namespace Index

/-- The look-ups of an index. -/
def lookups (i : Index) : Lookups where
  bySignature := i.bySignature
  literalOf? := i.literalOf?
  servicesAt := i.servicesAt
  parametersAt := i.parametersAt
  class? := i.class?
  allTemplates := i.allTemplates
  template? := i.template?
  route? := i.route?
  translationsOf := i.translationsOf
  filesOf := i.filesOf

instance : Coe Index Lookups := ⟨lookups⟩

variable (i : Index)

@[simp] theorem bySignature_lookups : i.lookups.bySignature = i.bySignature := rfl

@[simp] theorem literalOf?_lookups : i.lookups.literalOf? = i.literalOf? := rfl

@[simp] theorem servicesAt_lookups : i.lookups.servicesAt = i.servicesAt := rfl

@[simp] theorem parametersAt_lookups : i.lookups.parametersAt = i.parametersAt := rfl

@[simp] theorem class?_lookups : i.lookups.class? = i.class? := rfl

@[simp] theorem allTemplates_lookups : i.lookups.allTemplates = i.allTemplates := rfl

@[simp] theorem template?_lookups : i.lookups.template? = i.template? := rfl

@[simp] theorem route?_lookups : i.lookups.route? = i.route? := rfl

@[simp] theorem translationsOf_lookups : i.lookups.translationsOf = i.translationsOf := rfl

@[simp] theorem filesOf_lookups : i.lookups.filesOf = i.filesOf := rfl

end Index

end Signpost
