/-
`Proofs/Project/ServiceReference.lean` -- two answers to a service reference.

Beside a reference to a service stands the class of the service, and go-to leads to a class. Both
start from the same resolution of the service, but go-to hands the name that it gets to the reader
of class names once more: blanks and quotes around the name are taken off a second time, a name of
the form `%name%` is looked up as a parameter, and the rest is put into normal form again.

The answers therefore agree on the names that a second reading leaves alone, the stable ones. Every
class path is stable. For every other name that can be shown at all there is a project in which the
shown class is indexed and go-to does not find it; one service and one class are enough.
-/
import Signpost.Document.Builder
import Signpost.Document.Links
import Signpost.Project.Goto
import Signpost.Project.Overlay
import Signpost.Proofs.ClassPath
import Signpost.Proofs.Index.Log

set_option autoImplicit false

namespace Signpost

/-! ## Reading a class name -/

namespace ClassName

/-- What is read of a class name in a definition: the text without blanks and one pair of quotes
around it. -/
def bare (raw : String) : String := Text.unquote (Text.trim raw)

/-- A name in normal form. -/
def Normal (name : String) : Prop := ∃ written, normalize written = name

/-- A name that means itself when it is read as a text of a definition. -/
structure Stable (name : String) : Prop where
  notBlank : bare name ≠ ""
  notParameter : Reference.isParameter (bare name) = false
  key_eq : key (normalize (bare name)) = key name

end ClassName

/-- A class path has neither blanks nor quotes to lose. -/
theorem ClassPath.bare_text (path : ClassPath) : ClassName.bare path.text = path.text := by
  rw [ClassName.bare, path.trim_text, ← String.toList_inj, Text.toList_unquote]
  obtain ⟨c, cs, htext, hc⟩ := path.exists_text_eq
  have hdouble : c ≠ Text.doubleQuote := Text.ne_of_isWord hc (by decide)
  have hsingle : c ≠ Text.singleQuote := Text.ne_of_isWord hc (by decide)
  rw [htext, Text.unquoteChars, if_neg (by simp [hdouble, hsingle])]

/-- **Class paths are stable.** -/
theorem ClassPath.stable_text (path : ClassPath) : ClassName.Stable path.text := by
  -- the first character is part of a word, so there is one and it is no `%`
  obtain ⟨c, cs, htext, hc⟩ := path.exists_text_eq
  refine ⟨?_, ?_, ?_⟩
  · rw [path.bare_text, ne_eq, ← String.toList_eq_nil_iff, htext]
    exact List.cons_ne_nil c cs
  · have hpercent : c ≠ '%' := Text.ne_of_isWord hc (by decide)
    rw [path.bare_text, Reference.isParameter, htext]
    split
    · next h => exact absurd (List.cons.inj h).1 hpercent
    · rfl
  · rw [path.bare_text, path.normalize_text]

/-- Names with one key are names of one class. -/
def Lookups.GoesByKeys (i : Lookups) : Prop :=
  ∀ {name other}, ClassName.key name = ClassName.key other → i.class? name = i.class? other

/-- The tables of an index are such look-ups: definitions stand under the keys of their texts, and
classes under lowercase names. -/
theorem Index.goesByKeys (i : Index) : i.lookups.GoesByKeys := by
  intro name other hkey
  rw [class?_lookups, class?, class?, hkey]

namespace Container

variable {c : Container} {raw name : String}

/-- A text names a class by a parameter that it refers to, or by itself. -/
theorem className?_eq_some_iff :
    c.className? raw = some name ↔
      ClassName.bare raw ≠ ""
        ∧ ((Reference.isParameter (ClassName.bare raw) = true
            ∧ ∃ value, c.parameterValue? (ClassName.bare raw) = some value
              ∧ ClassName.normalize value = name)
          ∨ (Reference.isParameter (ClassName.bare raw) = false
            ∧ ClassName.normalize (ClassName.bare raw) = name)) := by
  have hread : c.className? raw
      = if (ClassName.bare raw).isEmpty then none
        else if Reference.isParameter (ClassName.bare raw) then
          (c.parameterValue? (ClassName.bare raw)).map ClassName.normalize
        else some (ClassName.normalize (ClassName.bare raw)) := rfl
  rw [hread, Option.ite_none_left_eq_some, String.isEmpty_iff]
  -- past the blank texts, the two ways of naming a class exclude each other
  refine and_congr_right fun _ => ?_
  cases Reference.isParameter (ClassName.bare raw) with
  | true => simp
  | false => simp

/-- A stable name is looked up as it is, in an index that goes by the keys of names. -/
theorem resolvedClass?_of_stable (c : Container) (hkeys : c.index.GoesByKeys)
    (h : ClassName.Stable name) : c.resolvedClass? name = c.index.class? name := by
  have hname : c.className? name = some (ClassName.normalize (ClassName.bare name)) :=
    className?_eq_some_iff.mpr ⟨h.notBlank, .inr ⟨h.notParameter, rfl⟩⟩
  rw [resolvedClass?, hname, Option.bind_some, hkeys h.key_eq]

/-- A class text names a normal form, by itself or through a parameter. -/
theorem normal_of_className? (h : c.className? raw = some name) : ClassName.Normal name := by
  obtain ⟨-, ⟨-, value, -, hvalue⟩ | ⟨-, hname⟩⟩ := className?_eq_some_iff.mp h
  · exact ⟨value, hvalue⟩
  · exact ⟨ClassName.bare raw, hname⟩

/-- The class of a definition is in normal form, however many aliases lead to it. -/
theorem normal_of_classOf? {hops : Nat} {definition : ServiceDefinition}
    (h : c.classOf? hops definition = some name) : ClassName.Normal name := by
  induction hops using Nat.strongRecOn generalizing definition with
  | _ hops ih =>
    rw [classOf?] at h
    split at h
    · exact normal_of_className? h
    · exact ⟨_, Option.some.inj h⟩
    · cases h
    · -- an alias, which takes one hop
      split at h
      · cases h
      · obtain ⟨other, -, hother⟩ := Option.bind_eq_some_iff.mp h
        exact ih _ (Nat.lt_succ_self _) hother

/-- So does a service, however many hops away its class is told. -/
theorem normal_of_serviceClass? {id : String} (h : c.serviceClass? id = some name) :
    ClassName.Normal name := by
  rw [serviceClass?, Option.bind_eq_some_iff] at h
  obtain ⟨definition, -, hclass⟩ := h
  exact normal_of_classOf? hclass

end Container

/-! ## The two answers -/

namespace Project

variable {p : Project} {d : Document} {t : NodeId} {name : String}

/-- The class shown beside a token. -/
def shownClass? (p : Project) (d : Document) (t : NodeId) : Option String :=
  (p.overlay? d t).map Overlay.text

/-- Go-to leads to the class that is shown, if it is indexed, and nowhere otherwise. -/
def AnswersAgree (p : Project) (d : Document) (t : NodeId) : Prop :=
  p.goto? d t = ((p.shownClass? d t).bind p.index.class?).map fun c => [c.declaration]

instance (p : Project) (d : Document) (t : NodeId) : Decidable (p.AnswersAgree d t) :=
  inferInstanceAs (Decidable (_ = _))

/-- What is shown beside a service reference is the class of the service. -/
theorem shownClass?_of_service (hrole : p.role? d t = some .serviceReferenceValue) :
    p.shownClass? d t = (Reference.service? (d.textOf t)).bind p.container.serviceClass? := by
  simp only [shownClass?, overlay?, hrole, Option.bind_some, overlayText?, Option.map_map]
  exact Option.map_id'

/-- Go-to reads the shown class once more. -/
theorem goto?_of_service (hrole : p.role? d t = some .serviceReferenceValue) :
    p.goto? d t = (p.shownClass? d t).bind p.classTarget? := by
  rw [shownClass?_of_service hrole, goto?, hrole, Option.bind_some, targets?, Option.bind_assoc]
  rfl

/-- It is a normal form. -/
theorem normal_of_shownClass? (hrole : p.role? d t = some .serviceReferenceValue)
    (h : p.shownClass? d t = some name) : ClassName.Normal name := by
  rw [shownClass?_of_service hrole, Option.bind_eq_some_iff] at h
  obtain ⟨id, -, hclass⟩ := h
  exact Container.normal_of_serviceClass? hclass

/-- In an index that goes by the keys of names, the answers agree on stable names. -/
theorem answersAgree_of_stable (hkeys : p.index.GoesByKeys)
    (hrole : p.role? d t = some .serviceReferenceValue)
    (h : ∀ name, p.shownClass? d t = some name → ClassName.Stable name) : p.AnswersAgree d t := by
  rw [AnswersAgree, goto?_of_service hrole]
  cases hshown : p.shownClass? d t with
  | none => rfl
  | some name =>
    rw [Option.bind_some, Option.bind_some, classTarget?,
      Container.resolvedClass?_of_stable p.container hkeys (h name hshown)]
    rfl

end Project

/-! ## A project of one service and its class -/

namespace ClassName

/-- A class text that is read as the normal form of what is written: behind a separator, quotes and
`%` are no marks. -/
def rooted (written : String) : String := String.singleton separator ++ Text.trim written

/-- The text starts with the separator, whatever is written. -/
theorem toList_rooted (written : String) :
    (rooted written).toList = separator :: Text.trimChars written.toList := by
  simp [rooted]

/-- There is no blank in front of it, and none is left at its end. -/
theorem trim_rooted (written : String) : Text.trim (rooted written) = rooted written := by
  rw [← String.toList_inj, Text.toList_trim, toList_rooted,
    Text.trimChars_cons_trimChars (by decide)]

/-- Nor is it taken for quoted. -/
theorem bare_rooted (written : String) : bare (rooted written) = rooted written := by
  have hquote : ¬ (separator = Text.doubleQuote ∨ separator = Text.singleQuote) := by decide
  rw [bare, trim_rooted, ← String.toList_inj, Text.toList_unquote, toList_rooted,
    Text.unquoteChars, if_neg fun h => hquote h.1]

/-- The separator in front is not part of the normal form. -/
theorem normalize_rooted (written : String) : normalize (rooted written) = normalize written := by
  rw [normalize, normalize, trim_rooted, ← String.toList_inj, Text.toList_dropLeading,
    Text.toList_dropLeading, toList_rooted, Text.toList_trim]
  exact List.dropWhile_cons_of_pos (by decide)

end ClassName

/-- So it names the normal form of what is written, whatever that is. -/
theorem Container.className?_rooted (c : Container) (written : String) :
    c.className? (ClassName.rooted written) = some (ClassName.normalize written) := by
  rw [className?_eq_some_iff, ClassName.bare_rooted, ne_eq, ← String.toList_eq_nil_iff,
    Reference.isParameter, ClassName.toList_rooted, ClassName.normalize_rooted]
  exact ⟨List.cons_ne_nil _ _, .inr ⟨rfl, rfl⟩⟩

namespace Project

/-- A service whose class is written so. -/
def mailerService (written : String) : ServiceDefinition :=
  ⟨"mailer", some (ClassName.rooted written), none, none⟩

/-- The class itself. -/
def mailerClass (written : String) : ClassInfo :=
  ⟨ClassName.normalize written, ⟨⟨"src/Mailer.php"⟩, none⟩, none, none⟩

/-- A project with the service, its class, and no parameters. -/
def ofClass (written : String) : Project where
  index := Index.ofEntries [.service (mailerService written), .classInfo (mailerClass written)]
  settings := .default

/-- A file that refers to the service. -/
def mailerReference : Document := .build ⟨"services.yaml"⟩ .config [.scalar "@mailer"]

/-- The one token of the file refers to a service. -/
theorem role?_mailerReference (written : String) :
    (ofClass written).role? mailerReference 1 = some .serviceReferenceValue := by
  have hrole : mailerReference.classify? Settings.default.templates 1
      = some .serviceReferenceValue := by decide +kernel
  exact hrole

/-- The service stands for the class as it is written. -/
theorem serviceClass?_ofClass (written : String) :
    (ofClass written).container.serviceClass? "mailer" = some (ClassName.normalize written) := by
  have hkey : ServiceKey.ofText? "mailer" = some ⟨"mailer"⟩ := by decide +kernel
  have hservices : (ofClass written).container.index.servicesAt ⟨"mailer"⟩
      = [mailerService written] := by
    have hlog : [Entry.service (mailerService written), .classInfo (mailerClass written)].filterMap
        Entry.service? = [mailerService written] := rfl
    rw [container, ofClass, Index.servicesAt_lookups, Index.servicesAt_ofEntries, hlog]
    simp [mailerService, hkey]
  have hservice : (ofClass written).container.service? "mailer" = some (mailerService written) := by
    rw [Container.service?, hkey, Option.bind_some, hservices, List.head?_cons]
  have hlead : Container.lead (mailerService written) = .classText (ClassName.rooted written) := by
    have hne : (Text.trim (ClassName.rooted written)).isEmpty = false := by
      rw [ClassName.trim_rooted, Bool.eq_false_iff, ne_eq, String.isEmpty_iff,
        ← String.toList_eq_nil_iff, ClassName.toList_rooted]
      exact List.cons_ne_nil _ _
    rw [Container.lead, mailerService, Option.filter_some, hne]
    rfl
  rw [Container.serviceClass?, hservice, Option.bind_some, Container.classOf?, hlead]
  exact Container.className?_rooted _ written

/-- That class is shown beside the token. -/
theorem shownClass?_mailerReference (written : String) :
    (ofClass written).shownClass? mailerReference 1 = some (ClassName.normalize written) := by
  have hid : Reference.service? (mailerReference.textOf 1) = some "mailer" := by decide +kernel
  rw [shownClass?_of_service (role?_mailerReference written), hid, Option.bind_some,
    serviceClass?_ofClass]

/-- The project has this one class. -/
theorem class?_ofClass (written name : String) :
    (ofClass written).index.class? name
      = if ClassName.key (ClassName.normalize written) = ClassName.key name then
          some (mailerClass written)
        else none := by
  have hlog : [Entry.service (mailerService written), .classInfo (mailerClass written)].filterMap
      Entry.class? = [mailerClass written] := rfl
  rw [ofClass, Index.class?_lookups, Index.class?_ofEntries, hlog]
  by_cases hkey : ClassName.key (ClassName.normalize written) = ClassName.key name
  · simp [mailerClass, hkey]
  · simp [mailerClass, hkey]

/-- It has no parameter that a class text could name. -/
theorem parameterValue?_ofClass (written name : String) :
    (ofClass written).container.parameterValue? name = none := by
  have hnone : ∀ key, (ofClass written).container.index.parametersAt key = [] := by
    intro key
    rw [container, ofClass, Index.parametersAt_lookups, Index.parametersAt_ofEntries]
    rfl
  rw [Container.parameterValue?, Container.parameter?]
  simp only [hnone, List.head?_nil, Option.bind_fun_none, Option.bind_none]

/-- The shown class is there, so go-to finds it only if the shown name is stable. -/
theorem stable_of_resolvedClass? {written : String} {info : ClassInfo}
    (h : (ofClass written).container.resolvedClass? (ClassName.normalize written) = some info) :
    ClassName.Stable (ClassName.normalize written) := by
  rw [Container.resolvedClass?, Option.bind_eq_some_iff] at h
  obtain ⟨name, hname, hinfo⟩ := h
  have hkey : ClassName.key (ClassName.normalize written) = ClassName.key name := by
    rw [container, class?_ofClass, Option.ite_none_right_eq_some] at hinfo
    exact hinfo.1
  obtain ⟨hblank, ⟨-, value, hvalue, -⟩ | ⟨hparameter, hnormal⟩⟩ :=
    Container.className?_eq_some_iff.mp hname
  · -- the project has no parameters
    rw [parameterValue?_ofClass] at hvalue
    cases hvalue
  · refine ⟨hblank, hparameter, ?_⟩
    rw [hnormal, hkey]

/-! ## Names on which the answers agree -/

/-- The answers agree in every project, whatever was indexed and set, on the references to services
that show this, in all documents with valid links. -/
def AlwaysAgree (shown : Option String) : Prop :=
  ∀ (log : List Entry) (settings : Settings) (d : Document) (t : NodeId),
    let p : Project := ⟨Index.ofEntries log, settings⟩
    d.linkDefect? = none → p.role? d t = some .serviceReferenceValue → p.shownClass? d t = shown →
      p.AnswersAgree d t

/-- **Where the two answers to a service reference agree.** References that show nothing lead
nowhere, and those that show a class name lead to the class of that name, in all projects exactly if
the name is stable or cannot be shown, not being a normal form. -/
theorem answers_agree_iff_stable (shown : Option String) :
    AlwaysAgree shown ↔
      ∀ name, shown = some name → ClassName.Normal name → ClassName.Stable name := by
  constructor
  · rintro h name rfl ⟨written, rfl⟩
    -- the one project that has to be asked about is the one with a service of that class
    have hagree : (ofClass written).AnswersAgree mailerReference 1 :=
      h _ _ mailerReference 1 (by decide +kernel) (role?_mailerReference written)
        (shownClass?_mailerReference written)
    rw [AnswersAgree, goto?_of_service (role?_mailerReference written),
      shownClass?_mailerReference, Option.bind_some, Option.bind_some, class?_ofClass, if_pos rfl,
      Option.map_some, classTarget?, Option.map_eq_some_iff] at hagree
    obtain ⟨info, hinfo, -⟩ := hagree
    exact stable_of_resolvedClass? hinfo
  · rintro h log settings d t p - hrole rfl
    refine answersAgree_of_stable (Index.goesByKeys _) hrole fun name hname => ?_
    exact h name hname (normal_of_shownClass? hrole hname)

/-- A class path and nothing can be relied on; a name that reads as a parameter cannot. -/
theorem answers_agree_iff_stable_mailer :
    AlwaysAgree none ∧ AlwaysAgree (some "App\\Mailer") ∧ ¬ AlwaysAgree (some "%q%") := by
  refine ⟨?_, ?_, ?_⟩
  · rw [answers_agree_iff_stable]
    rintro name ⟨⟩
  · rw [answers_agree_iff_stable]
    rintro name hname -
    obtain rfl : "App\\Mailer" = name := Option.some.inj hname
    exact ClassPath.stable_text ⟨[⟨"App", by decide, by decide⟩, ⟨"Mailer", by decide, by decide⟩],
      by decide⟩
  · rw [answers_agree_iff_stable]
    intro h
    have hstable := h _ rfl ⟨"%q%", by decide +kernel⟩
    exact absurd hstable.notParameter (by decide +kernel)

/-- A project in which the class of a service is a parameter whose value is another parameter. -/
def nestedParameters : Project where
  index := Index.ofEntries [.parameter ⟨"p", some "%q%", none⟩,
    .parameter ⟨"q", some "App\\Mailer", none⟩, .service ⟨"mailer", some "%p%", none, none⟩,
    .classInfo ⟨"App\\Mailer", ⟨⟨"src/Mailer.php"⟩, none⟩, none, none⟩]
  settings := .default

/-- The first parameter is shown, which is no class, and go-to follows the second one. -/
theorem nested_parameters_answers_differ :
    mailerReference.linkDefect? = none
      ∧ nestedParameters.role? mailerReference 1 = some .serviceReferenceValue
      ∧ nestedParameters.overlay? mailerReference 1 = some ⟨"%q%", ⟨0, 7⟩⟩
      ∧ nestedParameters.index.class? "%q%" = none
      ∧ nestedParameters.goto? mailerReference 1
        = some [.classDef "App\\Mailer" ⟨⟨"src/Mailer.php"⟩, none⟩]
      ∧ ¬ nestedParameters.AnswersAgree mailerReference 1 := by
  decide +kernel

end Project

end Signpost
