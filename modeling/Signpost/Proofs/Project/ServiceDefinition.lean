/-
`Proofs/Project/ServiceDefinition.lean` -- answers about a service definition.

Two tokens of a service definition stand for its class: the value under `class`, and the id of the
service, the key that opens the definition. Go-to and the overlay both read a class text off such a
token, `classText?`, and look up the class that the text names, `namedClass?`. Everything below
follows from the two answers being images of that one class.

*Both or neither.* Go-to answers on such a token exactly when the overlay does, and both speak of
the same indexed class.

*The id answers like the value.* The id finds the value by its place and never asks what the value
is, whereas the value is told by the key of the pair that it is in. Agreeing links make the two
meet: the pair in which the id finds the value is the one that the value names as its parent. A
blank value has no role, and its text names no class, so both answer nothing.

Specification: 4.5 and 8.
-/
import Signpost.Project.Overlay
import Signpost.Proofs.Document.Links
import Signpost.Proofs.Project.Goto
import Signpost.Proofs.Role.Use

set_option autoImplicit false

namespace Signpost

/-! ## Values under `class` -/

namespace Document

variable {d : Document} {k v t : NodeId} {names : TemplateSettings}

theorem accepts_of_classify? {role : Role} (h : d.classify? names t = some role) :
    role.dialect = d.dialect ∧ d.accepts names t role = true := by
  simpa using List.find?_some h

/-- What an id finds under `class`: a plain value in a pair of that key. -/
theorem exists_pair_of_siblingClassValue? (h : d.siblingClassValue? k = some v) :
    ∃ pair, v ∈ d.childrenOf pair ∧ d.isKind .scalar v = true
      ∧ d.isKind .keyValue pair = true ∧ Text.unquote (d.textOf pair) = "class" := by
  simp only [siblingClassValue?, Option.bind_eq_bind, Option.bind_eq_some_iff] at h
  obtain ⟨definition, -, pair, hpair, hvalue⟩ := h
  have hclass := List.find?_some hpair
  rw [Bool.and_eq_true, beq_iff_eq] at hclass
  exact ⟨pair, List.mem_of_find?_eq_some hvalue, List.find?_some hvalue, hclass.1, hclass.2⟩

/-- With agreeing links, what an id finds under `class` stands under `class`. -/
theorem underClassKey_of_siblingClassValue? (hlinks : d.linkDefect? = none)
    (h : d.siblingClassValue? k = some v) :
    d.isKind .scalar v = true ∧ d.underClassKey v = true := by
  obtain ⟨pair, hmem, hscalar, hpair, hclass⟩ := exists_pair_of_siblingClassValue? h
  have hparent : d.parent? v = some pair := (linked_of_linkDefect? hlinks).back hmem
  refine ⟨hscalar, ?_⟩
  rw [underClassKey, valueKey?, parentOfKind?, hparent, Option.filter_some, hpair, if_pos rfl,
    Option.map_some, hclass, beq_self_eq_true]

/-- A plain value under `class` is a class name or nothing. -/
theorem classify?_of_underClassKey (hdialect : d.dialect = .config)
    (hscalar : d.isKind .scalar v = true) (hclass : d.underClassKey v = true) :
    d.classify? names v = if d.isClassNameValue v then some .classNameValue else none := by
  have hkey : d.isKind .key v = false := by
    rw [Bool.eq_false_iff]
    intro h
    cases kind_eq_of_isKind hscalar h
  have hother : d.isServiceReference v = false ∧ d.isParameterReference v = false
      ∧ d.isServiceIdKey v = false := by
    simp [isServiceReference, isParameterReference, isServiceIdKey, hclass, hkey]
  cases hvalue : d.isClassNameValue v with
  | true => simp [classify?, Role.all, Role.dialect, hdialect, accepts, hvalue]
  | false => simp [classify?, Role.all, Role.dialect, hdialect, accepts, hvalue, hother]

end Document

/-! ## One class behind both answers -/

namespace Project

variable {p : Project} {d : Document} {t k v : NodeId} {role : Role}

/-- The text that is read as a class name at a token of the given role: the token's own, the one
under `class` in the definition that it opens, or else the class of the service. -/
def classText? (p : Project) (d : Document) (t : NodeId) : Role → Option String
  | .classNameValue => some (d.textOf t)
  | .serviceIdKey =>
    match d.siblingClassValue? t with
    | some value => some (d.textOf value)
    | none => p.container.serviceClass? (Text.unquote (d.textOf t))
  | _ => none

/-- The class that a token of the given role names. -/
def namedClass? (p : Project) (d : Document) (t : NodeId) (role : Role) : Option ClassInfo :=
  (p.classText? d t role).bind p.container.resolvedClass?

/-- How the construction of a class is shown in the project. -/
def summary (p : Project) (c : ClassInfo) : String :=
  p.index.constructorSummary c p.settings.container.maxParentDepth.toNat

/-- The roles of the tokens that stand for a class. -/
def IsClassRole (role : Role) : Prop := role = .classNameValue ∨ role = .serviceIdKey

theorem targets?_eq_map (hclass : IsClassRole role) :
    p.targets? d t role = (p.namedClass? d t role).map fun c => [c.declaration] := by
  have htext : p.classTarget?
      = fun raw => (p.container.resolvedClass? raw).map fun c => [c.declaration] := rfl
  rcases hclass with rfl | rfl
  · rw [targets?, namedClass?, classText?, Option.bind_some, htext]
  · simp only [targets?, serviceIdTarget?, namedClass?, classText?, serviceTarget?, htext,
      Option.map_bind, Function.comp_def]
    cases hvalue : d.siblingClassValue? t with
    | some value => simp only [Option.bind_some]
    | none => simp only

theorem overlayText?_eq_map (hclass : IsClassRole role) :
    p.overlayText? d t role = (p.namedClass? d t role).map p.summary := by
  have htext : p.classOverlay? = fun raw => (p.container.resolvedClass? raw).map p.summary := rfl
  rcases hclass with rfl | rfl
  · rw [overlayText?, namedClass?, classText?, Option.bind_some, htext]
  · simp only [overlayText?, serviceIdOverlay?, namedClass?, classText?, htext, Option.map_bind,
      Function.comp_def]
    cases hvalue : d.siblingClassValue? t with
    | some value => simp only [Option.bind_some]
    | none => simp only

/-- **One class behind both answers.** -/
theorem answers_of_role (hrole : p.role? d t = some role) (hclass : IsClassRole role) :
    p.goto? d t = (p.namedClass? d t role).map (fun c => [c.declaration])
      ∧ p.overlay? d t = (p.namedClass? d t role).map fun c => ⟨p.summary c, d.spanOf t⟩ := by
  rw [goto?, overlay?, hrole, Option.bind_some, Option.bind_some, targets?_eq_map hclass,
    overlayText?_eq_map hclass, Option.map_map]
  exact ⟨rfl, rfl⟩

theorem answers_of_no_role (hrole : p.role? d t = none) :
    p.goto? d t = none ∧ p.overlay? d t = none := by
  rw [goto?, overlay?, hrole]
  exact ⟨rfl, rfl⟩

/-- **Both or neither.** On a class name and on the id of a service definition, go-to answers exactly
when there is an overlay. Then both speak of one class that the index was told and finds under its
own name: go-to leads to the declaration of the class alone, and the overlay stands beside the token
and shows how the class is constructed. -/
theorem class_answers_go_together (log : List Entry) (settings : Settings) (d : Document)
    (t : NodeId) (hrole : d.classify? settings.templates t = some .classNameValue
      ∨ d.classify? settings.templates t = some .serviceIdKey) :
    let p : Project := ⟨Index.ofEntries log, settings⟩
    ((p.overlay? d t).isSome = true ↔ (p.goto? d t).isSome = true)
      ∧ ((p.goto? d t).isSome = true →
        ∃ c, Entry.classInfo c ∈ log ∧ p.index.class? c.name = some c
          ∧ p.goto? d t = some [.classDef (ClassName.normalize c.name) c.location]
          ∧ p.overlay? d t = some
            ⟨p.index.constructorSummary c settings.container.maxParentDepth.toNat,
              d.spanOf t⟩) := by
  intro p
  obtain ⟨role, hrole, hclass⟩ :
      ∃ role, d.classify? settings.templates t = some role ∧ IsClassRole role := by
    rcases hrole with h | h
    · exact ⟨_, h, .inl rfl⟩
    · exact ⟨_, h, .inr rfl⟩
  cases henabled : settings.enabled with
  | false =>
    have hnone : p.role? d t = none := by
      rw [role?, henabled]
      rfl
    obtain ⟨hgoto, hoverlay⟩ := answers_of_no_role hnone
    rw [hgoto, hoverlay]
    exact ⟨Iff.rfl, fun h => absurd h (by decide)⟩
  | true =>
    have hsome : p.role? d t = some role := role?_eq_some_iff.mpr ⟨henabled, hrole⟩
    obtain ⟨hgoto, hoverlay⟩ := answers_of_role hsome hclass
    rw [hgoto, hoverlay, Option.isSome_map, Option.isSome_map]
    refine ⟨Iff.rfl, fun h => ?_⟩
    obtain ⟨c, hc⟩ := Option.isSome_iff_exists.mp h
    obtain ⟨text, -, hresolved⟩ := Option.bind_eq_some_iff.mp hc
    obtain ⟨name, -, hfound⟩ := Option.bind_eq_some_iff.mp hresolved
    obtain ⟨htold, hself⟩ := Index.told_of_class? hfound
    rw [hc]
    exact ⟨c, htold, hself, rfl, rfl⟩

/-- A definition whose class is a parameter, with quotes around everything. -/
def mailerDefinition : Document :=
  .build ⟨"services.yaml"⟩ .config [.keyValue "services", .open .mapping "",
    .keyValue "'app.mailer'", .open .mapping "", .scalarEntry "\"class\"" "'%mailer.class%'"]

/-- A mailer with a constructor that it inherits. -/
def inheritedMailer : List Entry :=
  [.parameter ⟨"mailer.class", some "\\Mailer", none⟩,
    .classInfo ⟨"Mailer", ⟨⟨"src/Mailer.php"⟩, none⟩, some "Base", none⟩,
    .classInfo ⟨"Base", ⟨⟨"src/Base.php"⟩, none⟩, none, some [⟨"clock", some "Clock", none⟩]⟩]

/-- The id of the definition leads to the class and shows the inherited constructor. -/
theorem class_answers_go_together_mailer :
    let p : Project := ⟨Index.ofEntries inheritedMailer, .default⟩
    mailerDefinition.classify? p.names 5 = some .serviceIdKey
      ∧ p.overlay? mailerDefinition 5 = some ⟨"Mailer(Clock $clock)", ⟨10, 22⟩⟩
      ∧ (p.goto? mailerDefinition 5).isSome = true := by
  intro p
  have hrole : mailerDefinition.classify? p.names 5 = some .serviceIdKey := by decide +kernel
  have hoverlay : p.overlay? mailerDefinition 5 = some ⟨"Mailer(Clock $clock)", ⟨10, 22⟩⟩ := by
    decide +kernel
  have htogether := class_answers_go_together inheritedMailer .default mailerDefinition 5
    (.inr hrole)
  exact ⟨hrole, hoverlay, htogether.1.mp (by rw [hoverlay]; rfl)⟩

/-! ## The id and the value -/

/-- A blank text names no class. -/
theorem resolvedClass?_of_blank {raw : String} (h : Text.unquote (Text.trim raw) = "") :
    p.container.resolvedClass? raw = none := by
  rw [Container.resolvedClass?, Container.className?, h]
  rfl

theorem namedClass?_of_siblingClassValue? (h : d.siblingClassValue? k = some v) :
    p.namedClass? d k .serviceIdKey = p.namedClass? d v .classNameValue := by
  simp only [namedClass?, classText?, h]

/-- **The id of a service answers like its class.** If the definition that an id opens has a value
under `class` on one line, go-to leads to the same place from both, and both show the same or
nothing. -/
theorem id_answers_like_class_value (p : Project) (d : Document) (k v : NodeId)
    (hlinks : d.linkDefect? = none) (hrole : d.classify? p.names k = some .serviceIdKey)
    (hvalue : d.siblingClassValue? k = some v) (hline : '\n' ∉ (d.bareText v).toList) :
    p.goto? d k = p.goto? d v
      ∧ (p.overlay? d k).map Overlay.text = (p.overlay? d v).map Overlay.text := by
  have hdialect : d.dialect = .config := (Document.accepts_of_classify? hrole).1.symm
  obtain ⟨hscalar, hclass⟩ := Document.underClassKey_of_siblingClassValue? hlinks hvalue
  have hrole' : d.classify? p.names v = _ :=
    Document.classify?_of_underClassKey hdialect hscalar hclass
  cases henabled : p.settings.enabled with
  | false =>
    have hnone : ∀ t, p.role? d t = none := by
      intro t
      rw [role?, henabled]
      rfl
    obtain ⟨hgoto, hoverlay⟩ := answers_of_no_role (hnone k)
    obtain ⟨hgoto', hoverlay'⟩ := answers_of_no_role (hnone v)
    rw [hgoto, hoverlay, hgoto', hoverlay']
    exact ⟨rfl, rfl⟩
  | true =>
    obtain ⟨hgoto, hoverlay⟩ :=
      answers_of_role (role?_eq_some_iff.mpr ⟨henabled, hrole⟩) (.inr rfl)
    rw [hgoto, hoverlay, namedClass?_of_siblingClassValue? hvalue]
    by_cases hblank : d.bareText v = ""
    · -- neither the value nor its text says anything
      have hnone : d.isClassNameValue v = false := by simp [Document.isClassNameValue, hblank]
      rw [hnone] at hrole'
      have hrole'' : p.role? d v = none := by
        rw [role?, henabled, if_pos rfl, hrole']
        rfl
      obtain ⟨hgoto', hoverlay'⟩ := answers_of_no_role hrole''
      have hnamed : p.namedClass? d v .classNameValue = none := by
        rw [namedClass?, classText?, Option.bind_some, resolvedClass?_of_blank hblank]
      rw [hgoto', hoverlay', hnamed]
      exact ⟨rfl, rfl⟩
    · have hsome : d.isClassNameValue v = true := by
        simp [Document.isClassNameValue, hscalar, hclass, hblank, hline]
      rw [hsome, if_pos rfl] at hrole'
      obtain ⟨hgoto', hoverlay'⟩ :=
        answers_of_role (role?_eq_some_iff.mpr ⟨henabled, hrole'⟩) (.inl rfl)
      rw [hgoto', hoverlay', Option.map_map, Option.map_map]
      exact ⟨rfl, rfl⟩

/-- The quoted parameter under the quoted key, reached from the quoted id. -/
theorem id_answers_like_class_value_mailer :
    let p : Project := ⟨Index.ofEntries inheritedMailer, .default⟩
    mailerDefinition.siblingClassValue? 5 = some 9
      ∧ p.goto? mailerDefinition 9
        = some [.classDef "Mailer" ⟨⟨"src/Mailer.php"⟩, none⟩]
      ∧ p.goto? mailerDefinition 5 = p.goto? mailerDefinition 9
      ∧ (p.overlay? mailerDefinition 5).map Overlay.text
        = (p.overlay? mailerDefinition 9).map Overlay.text := by
  intro p
  have hvalue : mailerDefinition.siblingClassValue? 5 = some 9 := by decide +kernel
  refine ⟨hvalue, by decide +kernel, ?_⟩
  exact id_answers_like_class_value p mailerDefinition 5 9 (by decide +kernel) (by decide +kernel)
    hvalue (by decide +kernel)

end Project

end Signpost
