/-
`Proofs/Project/Goto.lean` -- what go-to answers.

Nine ways lead from a token to declarations, one for each role. They end differently: some with one
declaration or nothing, some with a list that counts only if it is not empty, and the way of routes
with whatever the index lists. One equivalence for each says when it answers and with what, and two
results are read off them.

*Every answer suits the role.* The ways hand on what the index holds under a name and look at it no
more, so this rests on everything being filed where it belongs. What `Suits` asks of a declaration
depends on the role: its kind, and the names that tie it to the token.

*The empty answer is for routes.* It says that the route is there and leads to nothing one could go
to; a reference whose target is missing has no answer at all.

Specification: 4.5 and B.6, item 11.
-/
import Signpost.Document.Builder
import Signpost.Project.Goto
import Signpost.Proofs.Index.Filed

set_option autoImplicit false

namespace Signpost.Project

variable {p : Project} {d : Document} {t : NodeId} {targets : List Declaration}

/-! ## The ways, one by one -/

/-- An empty list of targets is no answer. -/
theorem nonEmpty?_eq_some_iff {ds : List Declaration} :
    nonEmpty? ds = some targets ↔ ds = targets ∧ targets ≠ [] := by
  rw [nonEmpty?]
  cases ds with
  | nil => simp [eq_comm]
  | cons x ds =>
    simp only [List.isEmpty_cons, Bool.false_eq_true, if_false, Option.some.injEq]
    constructor
    · rintro rfl
      exact ⟨rfl, List.cons_ne_nil x ds⟩
    · exact And.left

/-- Going to a class leads to the declaration of the class that is found, and to no other. -/
theorem classTarget?_eq_some_iff {raw : String} :
    p.classTarget? raw = some targets ↔
      ∃ c, p.container.resolvedClass? raw = some c ∧ [c.declaration] = targets :=
  Option.map_eq_some_iff

/-- Going to a service leads to its class, found by the name that the service stands for. -/
theorem serviceTarget?_eq_some_iff {id : String} :
    p.serviceTarget? id = some targets ↔
      ∃ name, p.container.serviceClass? id = some name ∧ p.classTarget? name = some targets :=
  Option.bind_eq_some_iff

/-- Going to a parameter takes a definition that has a location. -/
theorem parameterTarget?_eq_some_iff {raw : String} :
    p.parameterTarget? raw = some targets ↔
      ∃ definition location, p.container.parameter? raw = some definition
        ∧ definition.location = some location
        ∧ [.parameter definition.key location] = targets := by
  simp only [parameterTarget?, Option.bind_eq_bind, Option.bind_eq_some_iff, Option.pure_def,
    Option.some.injEq, exists_and_left]

/-- The id of a service leads where a class name does: the one under `class` or the one of the
service. -/
theorem exists_classTarget?_of_serviceIdTarget? (h : p.serviceIdTarget? d t = some targets) :
    ∃ raw, p.classTarget? raw = some targets := by
  rw [serviceIdTarget?] at h
  split at h
  · exact ⟨_, h⟩
  · obtain ⟨name, -, htarget⟩ := serviceTarget?_eq_some_iff.mp h
    exact ⟨name, htarget⟩

/-- The blocks of a template under a name are its blocks of that name, each at its own place. -/
theorem mem_blocksOf {name : String} {template : Template} {x : Declaration} :
    x ∈ blocksOf name template ↔
      ∃ b ∈ template.blocks, b.name = name ∧ x = .templateBlock name template.name b.location := by
  simp only [blocksOf, List.mem_map, List.mem_filter, beq_iff_eq]
  constructor
  · rintro ⟨b, ⟨hb, rfl⟩, rfl⟩
    exact ⟨b, hb, rfl, rfl⟩
  · rintro ⟨b, hb, rfl, rfl⟩
    exact ⟨b, ⟨hb, rfl⟩, rfl⟩

/-- Going to a file leads to the one template of that name. -/
theorem fileTarget?_eq_some_iff {name : String} :
    p.fileTarget? name = some targets ↔
      ∃ template, p.index.template? name = some template
        ∧ [.templateFile template.name template.location] = targets :=
  Option.map_eq_some_iff

/-- A route that is known has an answer in any case: the methods that its controller names, or the
empty list. -/
theorem routeTargets?_eq_some_iff {name : String} :
    p.routeTargets? name = some targets ↔
      ∃ route, p.index.route? name = some route
        ∧ ((route.controller.bind Route.controllerMethod? = none ∧ targets = [])
          ∨ ∃ owner method, route.controller.bind Route.controllerMethod? = some (owner, method)
            ∧ targets = p.index.byType (Declaration.methodSignature owner method)) := by
  rw [routeTargets?, Option.map_eq_some_iff]
  refine exists_congr fun route => and_congr_right fun _ => ?_
  cases route.controller.bind Route.controllerMethod? with
  | none => simp [eq_comm]
  | some pair => simp [eq_comm, Prod.ext_iff]

/-- Going to a domain leads to all files of it, if there are any. -/
theorem domainTargets?_eq_some (h : p.domainTargets? d t = some targets) :
    p.index.filesOf (d.textOf t) = targets ∧ targets ≠ [] := by
  rw [domainTargets?, Option.bind_eq_bind, Option.bind_eq_some_iff] at h
  obtain ⟨owner, -, h⟩ := h
  split at h
  · exact nonEmpty?_eq_some_iff.mp h
  · cases h

/-! ## Answers suit the role -/

/-- What a declaration is to a token of the role that leads to it. -/
def Suits (p : Project) (d : Document) (t : NodeId) : Role → Declaration → Prop
  | .classNameValue, x => x.kind = .classDef
  | .serviceReferenceValue, x => x.kind = .classDef
  | .serviceIdKey, x => x.kind = .classDef
  | .parameterReferenceValue, x =>
    ∃ written location key, x = .parameter written location
      ∧ ParameterKey.ofText? written = some key ∧ ParameterKey.ofText? (d.textOf t) = some key
  | .templateBlockReference, x =>
    ∃ template location, x = .templateBlock (d.textOf t) template location
      ∧ (p.index.template? template).isSome = true
  | .templateFileReference, x => ∃ location, x = .templateFile (d.textOf t) location
  | .routeNameReference, x =>
    -- a `|` in the controller makes its signature a union, which may name anything
    (∀ route controller, p.index.route? (d.textOf t) = some route →
      route.controller = some controller → Signature.unionMark ∉ controller.toList) →
    x.kind = .method
  | .translationDomainArgument, x => ∃ location, x = .translationDomain (d.textOf t) location
  | .translationKeyReference, x =>
    ∃ location, x = .translationEntry (d.translationDomain p.names t) (d.textOf t) location

/-- A class leads to a class. -/
theorem kind_of_classTarget? {raw : String} (h : p.classTarget? raw = some targets)
    {x : Declaration} (hx : x ∈ targets) : x.kind = .classDef := by
  obtain ⟨c, -, rfl⟩ := classTarget?_eq_some_iff.mp h
  rw [List.mem_singleton.mp hx]
  rfl

/-- The target of a parameter is a parameter of that key, at the place of its definition. -/
theorem suits_parameter (hindex : p.index.Filed) (h : p.parameterTarget? (d.textOf t) = some targets)
    {x : Declaration} (hx : x ∈ targets) : p.Suits d t .parameterReferenceValue x := by
  obtain ⟨definition, location, hdefinition, -, rfl⟩ := parameterTarget?_eq_some_iff.mp h
  rw [Container.parameter?, Option.bind_eq_some_iff] at hdefinition
  obtain ⟨key, hkey, hhead⟩ := hdefinition
  -- the definition was found under the key of the token, so its own text has that key too
  have hwritten : ParameterKey.ofText? definition.key = some key :=
    hindex.parametersAt (List.mem_of_mem_head? hhead)
  exact ⟨definition.key, location, key, List.mem_singleton.mp hx, hwritten, hkey⟩

/-- The targets of a block are blocks of that name in templates that are indexed. -/
theorem suits_block (hindex : p.index.Filed) (h : p.blockTargets? (d.textOf t) = some targets)
    {x : Declaration} (hx : x ∈ targets) : p.Suits d t .templateBlockReference x := by
  obtain ⟨rfl, -⟩ := nonEmpty?_eq_some_iff.mp h
  obtain ⟨template, htemplate, hblock⟩ := List.mem_flatMap.mp hx
  obtain ⟨b, -, -, rfl⟩ := mem_blocksOf.mp hblock
  refine ⟨template.name, b.location, rfl, ?_⟩
  rw [hindex.allTemplates htemplate]
  rfl

/-- The target of a file is the template of that name. -/
theorem suits_file (hindex : p.index.Filed) (h : p.fileTarget? (d.textOf t) = some targets)
    {x : Declaration} (hx : x ∈ targets) : p.Suits d t .templateFileReference x := by
  obtain ⟨template, htemplate, rfl⟩ := fileTarget?_eq_some_iff.mp h
  refine ⟨template.location, ?_⟩
  rw [List.mem_singleton.mp hx, hindex.template? htemplate]

/-- The targets of a domain are files of that domain. -/
theorem suits_domain (hindex : p.index.Filed) (h : p.domainTargets? d t = some targets)
    {x : Declaration} (hx : x ∈ targets) : p.Suits d t .translationDomainArgument x := by
  obtain ⟨rfl, -⟩ := domainTargets?_eq_some h
  have hdomain := hindex.filesOf hx
  cases x with
  | translationDomain domain location =>
    cases hdomain
    exact ⟨location, rfl⟩
  | _ => cases hdomain

/-- The targets of a translation key are entries for that key in the domain in which it is asked. -/
theorem suits_key (hindex : p.index.Filed) (h : p.keyTargets? d t = some targets)
    {x : Declaration} (hx : x ∈ targets) : p.Suits d t .translationKeyReference x := by
  obtain ⟨rfl, -⟩ := nonEmpty?_eq_some_iff.mp h
  -- leaving copies out adds nothing
  have hkey := hindex.translationsOf ((distinctBy_sublist _ _).subset hx)
  cases x with
  | translationEntry domain key location =>
    cases hkey
    exact ⟨location, rfl⟩
  | _ => cases hkey

/-! ### Routes

The class and the method of a controller are pieces of it, so the signature of the method holds a `|`
only if the controller does. -/

/-- Class and method of a controller are parts of its text. -/
theorem sublist_of_controllerMethod? {controller owner method : String}
    (h : Route.controllerMethod? controller = some (owner, method)) :
    owner.toList.Sublist controller.toList ∧ method.toList.Sublist controller.toList := by
  simp only [Route.controllerMethod?, Option.bind_eq_bind, Option.bind_eq_some_iff,
    Option.ite_none_left_eq_some, Option.some.injEq, Prod.mk.injEq] at h
  obtain ⟨⟨left, right⟩, hcut, -, rfl, rfl⟩ := h
  have htrim : (Text.trim controller).toList = left.toList ++ "::".toList ++ right.toList := by
    rw [Text.eq_append_of_cutLast? hcut, String.toList_append, String.toList_append]
  have hall : (left.toList ++ "::".toList ++ right.toList).Sublist controller.toList := by
    rw [← htrim, Text.toList_trim]
    exact Text.trimChars_sublist _
  constructor
  · rw [List.append_assoc] at hall
    exact (ClassName.normalize_sublist left).trans ((List.sublist_append_left _ _).trans hall)
  · exact (List.sublist_append_right _ _).trans hall

/-- A controller without a `|` names a method whose signature is no union, so that it is looked up
as one. -/
theorem unionMark_notMem_methodSignature {controller owner method : String}
    (h : Route.controllerMethod? controller = some (owner, method))
    (hfree : Signature.unionMark ∉ controller.toList) :
    Signature.unionMark ∉ (Declaration.methodSignature owner method).toList := by
  obtain ⟨howner, hmethod⟩ := sublist_of_controllerMethod? h
  have hnormal := (ClassName.normalize_sublist owner).trans howner
  -- the two fixed texts of a signature hold no `|`, and the rest comes from the controller
  simp only [Declaration.methodSignature, String.toList_append, List.mem_append, not_or]
  exact ⟨⟨⟨by decide, fun hmem => hfree (hnormal.subset hmem)⟩, by decide⟩,
    fun hmem => hfree (hmethod.subset hmem)⟩

/-- The targets of a route are methods under the signature that its controller names. -/
theorem suits_route (hindex : p.index.Filed) (h : p.routeTargets? (d.textOf t) = some targets)
    {x : Declaration} (hx : x ∈ targets) : p.Suits d t .routeNameReference x := by
  rw [Suits]
  intro hfree
  rw [routeTargets?_eq_some_iff] at h
  obtain ⟨route, hroute, ⟨-, hnil⟩ | ⟨owner, method, hpair, hmethods⟩⟩ := h
  · rw [hnil] at hx
    exact absurd hx List.not_mem_nil
  · rw [Option.bind_eq_some_iff] at hpair
    obtain ⟨controller, hcontroller, hmethod⟩ := hpair
    have hcontrollerFree := hfree route controller hroute hcontroller
    have hsingle := unionMark_notMem_methodSignature hmethod hcontrollerFree
    rw [hmethods, Lookups.byType_eq_bySignature _ hsingle] at hx
    exact Declaration.kind_eq_method (hindex.bySignature hx)

/-! ### All roles -/

/-- **Every target suits the role under which it was found.** -/
theorem suits_of_targets? (hindex : p.index.Filed) {role : Role}
    (h : p.targets? d t role = some targets) {x : Declaration} (hx : x ∈ targets) :
    p.Suits d t role x := by
  cases role <;> rw [targets?] at h
  case classNameValue => exact kind_of_classTarget? h hx
  case serviceReferenceValue =>
    obtain ⟨id, -, htarget⟩ := Option.bind_eq_some_iff.mp h
    obtain ⟨name, -, htarget⟩ := serviceTarget?_eq_some_iff.mp htarget
    exact kind_of_classTarget? htarget hx
  case parameterReferenceValue => exact suits_parameter hindex h hx
  case serviceIdKey =>
    obtain ⟨raw, htarget⟩ := exists_classTarget?_of_serviceIdTarget? h
    exact kind_of_classTarget? htarget hx
  case templateBlockReference => exact suits_block hindex h hx
  case templateFileReference => exact suits_file hindex h hx
  case routeNameReference => exact suits_route hindex h hx
  case translationDomainArgument => exact suits_domain hindex h hx
  case translationKeyReference => exact suits_key hindex h hx

/-- **Go-to answers suit the role.** In the index of any log, whatever the settings and the document,
an answer means that the token has a role, every declaration in the answer suits that role, and the
answer to a file reference is one declaration. -/
theorem targets_suit_role (log : List Entry) (settings : Settings) (d : Document) (t : NodeId)
    {targets : List Declaration}
    (h : (Project.mk (Index.ofEntries log) settings).goto? d t = some targets) :
    ∃ role, (Project.mk (Index.ofEntries log) settings).role? d t = some role
      ∧ (∀ x ∈ targets, (Project.mk (Index.ofEntries log) settings).Suits d t role x)
      ∧ (role = .templateFileReference → targets.length = 1) := by
  obtain ⟨role, hrole, htargets⟩ := Option.bind_eq_some_iff.mp h
  refine ⟨role, hrole, fun x hx => suits_of_targets? (Index.filed_ofEntries log) htargets hx, ?_⟩
  rintro rfl
  obtain ⟨template, -, rfl⟩ := fileTarget?_eq_some_iff.mp htargets
  rfl

/-- A page that links to two routes. -/
def linkedPage : Document :=
  .build ⟨"page.html"⟩ .template [.ident "path", .punct "(", .string "home", .punct ")",
    .ident "path", .punct "(", .string "about", .punct ")"]

/-- The action behind `home`. -/
def homeAction : Declaration := .method "App\\Home" "show" ⟨⟨"src/Home.php"⟩, none⟩

/-- A project with both routes, of which only `home` has a controller. -/
def linkedProject : Project where
  index := Index.ofEntries [.element homeAction none, .route ⟨"home", some "App\\Home::show", none⟩,
    .route ⟨"about", none, none⟩]
  settings := .default

/-- The link to `home` leads to its action, which suits the role of the link. -/
theorem targets_suit_role_home :
    linkedProject.goto? linkedPage 3 = some [homeAction]
      ∧ ∃ role, linkedProject.role? linkedPage 3 = some role
        ∧ (∀ x ∈ [homeAction], linkedProject.Suits linkedPage 3 role x)
        ∧ (role = .templateFileReference → [homeAction].length = 1) := by
  have h : linkedProject.goto? linkedPage 3 = some [homeAction] := by decide +kernel
  exact ⟨h, targets_suit_role _ _ _ _ h⟩

/-! ## The empty answer -/

/-- Only routes lead to an empty list. -/
theorem targets?_ne_some_nil {role : Role} (hrole : role ≠ .routeNameReference) :
    p.targets? d t role ≠ some [] := by
  have hclass : ∀ raw, p.classTarget? raw ≠ some [] := by
    intro raw h
    obtain ⟨c, -, hnil⟩ := classTarget?_eq_some_iff.mp h
    cases hnil
  intro h
  cases role <;> rw [targets?] at h
  case classNameValue => exact hclass _ h
  case serviceReferenceValue =>
    obtain ⟨id, -, htarget⟩ := Option.bind_eq_some_iff.mp h
    obtain ⟨name, -, htarget⟩ := serviceTarget?_eq_some_iff.mp htarget
    exact hclass name htarget
  case parameterReferenceValue =>
    obtain ⟨definition, location, -, -, hnil⟩ := parameterTarget?_eq_some_iff.mp h
    cases hnil
  case serviceIdKey =>
    obtain ⟨raw, htarget⟩ := exists_classTarget?_of_serviceIdTarget? h
    exact hclass raw htarget
  case templateBlockReference =>
    rw [blockTargets?] at h
    exact (nonEmpty?_eq_some_iff.mp h).2 rfl
  case templateFileReference =>
    obtain ⟨template, -, hnil⟩ := fileTarget?_eq_some_iff.mp h
    cases hnil
  case routeNameReference => exact hrole rfl
  case translationDomainArgument => exact (domainTargets?_eq_some h).2 rfl
  case translationKeyReference =>
    rw [keyTargets?] at h
    exact (nonEmpty?_eq_some_iff.mp h).2 rfl

/-- A token has a role in a project that is switched on, and then it is that of its document. -/
theorem role?_eq_some_iff {role : Role} :
    p.role? d t = some role ↔ p.settings.enabled = true ∧ d.classify? p.names t = some role := by
  rw [role?, Option.ite_none_right_eq_some]

/-- **The empty answer is for routes.** Go-to answers with the empty list exactly for a token that
names an indexed route without a `Class::method` controller, or with one whose method is not indexed.
Every other role answers with something or not at all, and so does a route that is not indexed. -/
theorem goto_nil_iff_route_leads_nowhere (p : Project) (d : Document) (t : NodeId) :
    (p.goto? d t = some [] ↔
      p.settings.enabled = true ∧ d.classify? p.names t = some .routeNameReference
        ∧ ∃ route, p.index.route? (d.textOf t) = some route
          ∧ (route.controller.bind Route.controllerMethod? = none
            ∨ ∃ owner method, route.controller.bind Route.controllerMethod? = some (owner, method)
              ∧ p.index.byType (Declaration.methodSignature owner method) = []))
      ∧ (∀ role targets, p.role? d t = some role → role ≠ .routeNameReference →
        p.goto? d t = some targets → targets ≠ [])
      ∧ (p.role? d t = some .routeNameReference → p.index.route? (d.textOf t) = none →
        p.goto? d t = none) := by
  refine ⟨?_, ?_, ?_⟩
  · rw [← and_assoc, ← role?_eq_some_iff]
    constructor
    · intro h
      obtain ⟨role, hrole, htargets⟩ := Option.bind_eq_some_iff.mp h
      -- of all roles, only routes can have answered so
      obtain rfl : role = .routeNameReference := by
        by_contra hne
        exact targets?_ne_some_nil hne htargets
      obtain ⟨route, hroute, ⟨hnone, -⟩ | ⟨owner, method, hpair, hnil⟩⟩ :=
        routeTargets?_eq_some_iff.mp htargets
      · exact ⟨hrole, route, hroute, .inl hnone⟩
      · exact ⟨hrole, route, hroute, .inr ⟨owner, method, hpair, hnil.symm⟩⟩
    · rintro ⟨hrole, route, hroute, hleads⟩
      refine Option.bind_eq_some_iff.mpr ⟨.routeNameReference, hrole, ?_⟩
      refine routeTargets?_eq_some_iff.mpr ⟨route, hroute, ?_⟩
      rcases hleads with hnone | ⟨owner, method, hpair, hnil⟩
      · exact .inl ⟨hnone, rfl⟩
      · exact .inr ⟨owner, method, hpair, hnil.symm⟩
  · rintro role targets hrole hne h rfl
    rw [goto?, hrole] at h
    exact targets?_ne_some_nil hne h
  · intro hrole hroute
    rw [goto?, hrole, Option.bind_some, targets?, routeTargets?, hroute]
    rfl

/-- The link to `about` leads nowhere. -/
theorem goto_nil_iff_route_leads_nowhere_about : linkedProject.goto? linkedPage 7 = some [] := by
  rw [(goto_nil_iff_route_leads_nowhere _ _ _).1]
  exact ⟨rfl, by decide +kernel, ⟨"about", none, none⟩, by decide +kernel, .inl rfl⟩

end Signpost.Project
