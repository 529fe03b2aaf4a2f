/-
`Proofs/Container/Reference.lean` -- reference arguments of calls.

A call may name its service through a member of a class: a constant or a field whose literal is the
id. The signature of the member is then the payload, and it holds marks of its own, `#` at the
front, `\` inside and one `.`. None of the later steps cuts there: the union mark and the delimiters
do not occur in it, and under the delimiter `.` it is the base that ends at the second `.`, before
the payload starts.

The constant `class` needs no look-up at all. What it stands for is the class path with a separator
in front, and the key of a service forgets exactly one of those, so the answer is that of the class
path itself, however it is written and whatever declarations and literals the index holds.
-/
import Signpost.Proofs.Container.Call

set_option autoImplicit false

namespace Signpost

/-! ## Class paths as they are written -/

/-- A class path in the source: with one separator in front if it starts at the root. -/
structure WrittenPath where
  path : ClassPath
  rooted : Bool

namespace WrittenPath

variable (written : WrittenPath)

/-- The text of the path. -/
def text : String :=
  if written.rooted then String.singleton ClassName.separator ++ written.path.text
  else written.path.text

theorem toList_text :
    written.text.toList
      = if written.rooted then ClassName.separator :: written.path.text.toList
        else written.path.text.toList := by
  rw [text]
  cases written.rooted with
  | false => rfl
  | true => simp

/-- A written path has no blanks, whether it is rooted or not. -/
theorem isBlank_of_mem {c : Char} (hc : c ∈ written.text.toList) : Text.isBlank c = false := by
  have hpath : c = ClassName.separator ∨ Text.isWord c = true := by
    rw [toList_text] at hc
    cases hrooted : written.rooted with
    | false =>
      rw [hrooted] at hc
      exact written.path.mem_text hc
    | true =>
      rw [hrooted] at hc
      rcases List.mem_cons.mp hc with hc | hc
      · exact Or.inl hc
      · exact written.path.mem_text hc
  rcases hpath with rfl | hword
  · decide
  · exact Text.isBlank_of_isWord hword

/-- The separator in front is no part of the class name. -/
theorem normalize_text : ClassName.normalize written.text = written.path.text := by
  have htrim : Text.trim written.text = written.text := by
    rw [← String.toList_inj, Text.toList_trim,
      Text.trimChars_eq_self fun c hc => written.isBlank_of_mem hc]
  obtain ⟨c, cs, hcs, hword⟩ := written.path.exists_text_eq
  have hsep : c ≠ ClassName.separator := Text.ne_of_isWord hword (by decide)
  rw [ClassName.normalize, htrim, ← String.toList_inj, Text.toList_dropLeading, toList_text, hcs]
  cases written.rooted with
  | false => simp [hsep]
  | true => simp [hsep]

end WrittenPath

section Signatures

variable (written : WrittenPath) (name : Identifier)

/-! Signatures are built from the class name, so they do not show how it was written. -/

theorem methodSignature_written :
    Declaration.methodSignature written.text name.text
      = memberSignature 'M' written.path name := by
  rw [← methodSignature_text, Declaration.methodSignature, Declaration.methodSignature,
    written.normalize_text, written.path.normalize_text]

theorem fieldSignature_written :
    Declaration.fieldSignature written.text name.text = memberSignature 'P' written.path name := by
  rw [← fieldSignature_text, Declaration.fieldSignature, Declaration.fieldSignature,
    written.normalize_text, written.path.normalize_text]

theorem constantSignature_written :
    Declaration.constantSignature written.text name.text
      = memberSignature 'K' written.path name := by
  rw [← constantSignature_text, Declaration.constantSignature, Declaration.constantSignature,
    written.normalize_text, written.path.normalize_text]

end Signatures

/-! ## The key of a class path -/

namespace ServiceKey

/-- The key of a class path forgets the separator in front and nothing else but case. -/
theorem bareChars_written (written : WrittenPath) :
    bareChars written.text.toList = written.path.text.toList := by
  have htrim : Text.trimChars written.text.toList = written.text.toList :=
    Text.trimChars_eq_self fun c hc => written.isBlank_of_mem hc
  obtain ⟨c, cs, hcs, hword⟩ := written.path.exists_text_eq
  -- neither the separator nor the first letter is a quote or an `@`
  have hdouble : c ≠ Text.doubleQuote := Text.ne_of_isWord hword (by decide)
  have hsingle : c ≠ Text.singleQuote := Text.ne_of_isWord hword (by decide)
  have hat : c ≠ '@' := Text.ne_of_isWord hword (by decide)
  have hsep : c ≠ ClassName.separator := Text.ne_of_isWord hword (by decide)
  have hfront : Text.dropOneChars '@' (Text.unquoteChars written.text.toList)
      = written.text.toList := by
    rw [WrittenPath.toList_text, hcs]
    cases written.rooted with
    | false => simp [Text.unquoteChars, Text.dropOneChars, hdouble, hsingle, hat]
    | true =>
      have hmarks : ClassName.separator ≠ Text.doubleQuote ∧ ClassName.separator ≠ Text.singleQuote
          ∧ ClassName.separator ≠ '@' := by decide
      simp [Text.unquoteChars, Text.dropOneChars, hmarks]
  rw [bareChars, htrim, hfront, htrim, WrittenPath.toList_text, hcs]
  cases written.rooted with
  | false => simp [Text.dropOneChars, hsep]
  | true => simp [Text.dropOneChars]

/-- Ids of which the same is left have the same key. -/
theorem ofText?_congr {raw other : String} (h : bareChars raw.toList = bareChars other.toList) :
    ofText? raw = ofText? other := by
  refine Option.ext fun key => ?_
  rw [ofText?_eq_some_iff, ofText?_eq_some_iff, h]

end ServiceKey

/-! ## What the class of a service depends on -/

namespace Container

section Congr

variable {c other : Container} (hservices : c.index.servicesAt = other.index.servicesAt)
  (hparameters : c.index.parametersAt = other.index.parametersAt)

include hservices in
theorem service?_congr (id : String) : c.service? id = other.service? id := by
  rw [service?, service?, hservices]

include hparameters in
theorem className?_congr (raw : String) : c.className? raw = other.className? raw := by
  have hparameter : ∀ key, c.parameter? key = other.parameter? key := by
    intro key
    rw [parameter?, parameter?, hparameters]
  rw [className?, className?, parameterValue?, parameterValue?, hparameter]

include hservices hparameters in
/-- The class of a definition is a matter of services and parameters alone. -/
theorem classOf?_congr (hops : Nat) (definition : ServiceDefinition) :
    c.classOf? hops definition = other.classOf? hops definition := by
  induction hops generalizing definition with
  | zero =>
    rw [classOf?, classOf?]
    cases lead definition with
    | classText text => exact className?_congr hparameters text
    | otherService id => rfl
    | idAsClass name => rfl
    | nothing => rfl
  | succ hops ih =>
    rw [classOf?, classOf?]
    cases lead definition with
    | classText text => exact className?_congr hparameters text
    | otherService id =>
      show (c.service? id).bind (c.classOf? hops) = (other.service? id).bind (other.classOf? hops)
      rw [service?_congr hservices, funext ih]
    | idAsClass name => rfl
    | nothing => rfl

include hservices hparameters in
/-- So the class of a service is the same in two containers that agree on those. -/
theorem serviceClass?_congr (hdepth : c.maxAliasDepth = other.maxAliasDepth) (id : String) :
    c.serviceClass? id = other.serviceClass? id := by
  rw [serviceClass?, serviceClass?, service?_congr hservices, hdepth,
    funext (classOf?_congr hservices hparameters other.maxAliasDepth)]

end Congr

/-- A class path names the same service however it is written. -/
theorem serviceClass?_written (c : Container) (written : WrittenPath) (rooted : Bool) :
    c.serviceClass? (WrittenPath.text ⟨written.path, rooted⟩) = c.serviceClass? written.text := by
  have hkey : ServiceKey.ofText? (WrittenPath.text ⟨written.path, rooted⟩)
      = ServiceKey.ofText? written.text := by
    refine ServiceKey.ofText?_congr ?_
    rw [ServiceKey.bareChars_written, ServiceKey.bareChars_written]
  rw [serviceClass?, serviceClass?, service?, service?, hkey]

end Container

/-! ## References as payloads -/

/-- The constant `class` stands for the class path from the root. -/
theorem Lookups.literal?_class (i : Lookups) (path : ClassPath) (name : Identifier)
    (hname : name.text = "class") :
    i.literal? (memberSignature 'K' path name) = some (WrittenPath.text ⟨path, true⟩) := by
  have hafter : Text.after? "#K#C" (memberSignature 'K' path name)
      = some (WrittenPath.text ⟨path, true⟩ ++ ".class") := by
    rw [Text.after?_eq_some_iff, ← String.toList_inj, toList_memberSignature, hname]
    simp [WrittenPath.toList_text, ClassName.separator]
  have hbefore : Text.before? ".class" (WrittenPath.text ⟨path, true⟩ ++ ".class")
      = some (WrittenPath.text ⟨path, true⟩) := Text.before?_eq_some_iff.mpr rfl
  have hconstant : classConstant? (memberSignature 'K' path name)
      = some (WrittenPath.text ⟨path, true⟩) := by
    rw [classConstant?, hafter, Option.bind_some, hbefore]
    rfl
  rw [literal?, literal, hconstant]
  rfl

/-- The call of a method, by its class and name, with the given arguments. -/
def CallSite.ofMethod (owner : WrittenPath) (method : Identifier) (arguments : List Argument) :
    CallSite :=
  ⟨some (Declaration.methodSignature owner.text method.text), arguments⟩

/-- A call whose first argument carries the signature of a member is one alternative. -/
theorem CallSite.alternative_ofMethod {d kind : Char} (hd : Signature.isDelimiter d = true)
    (hkind : kind ∈ memberKinds) (owner : WrittenPath) (method : Identifier) (path : ClassPath)
    (name : Identifier) {argument : Argument} (rest : List Argument)
    (hargument : argument.payload? = some (memberSignature kind path name)) :
    (ofMethod owner method (argument :: rest)).Alternative d (rest.length + 1)
      (memberSignature 'M' owner.path method, memberSignature kind path name) := by
  have hmethod : 'M' ∈ memberKinds := by decide
  have hne : ∀ (kind : Char) (path : ClassPath) (name : Identifier),
      memberSignature kind path name ≠ "" := by
    intro kind path name
    rw [ne_eq, ← String.toList_eq_nil_iff, toList_memberSignature]
    simp
  have hfree : ∀ {kind : Char} (path : ClassPath) (name : Identifier), kind ∈ memberKinds →
      Signature.unionMark ∉ (memberSignature kind path name).toList := by
    intro kind path name hkind
    exact Signature.notMem_memberSignature hkind path name (by decide) (by decide) (by decide)
      (by decide)
  refine ⟨⟨?_, hne _ _ _, rfl, hargument, hne _ _ _⟩,
    Signature.separable_memberSignature hd hmethod owner.path method, hfree _ _ hmethod,
    hfree _ _ hkind⟩
  rw [ofMethod, methodSignature_written]

namespace Container

/-- Such a call stands for what the member is looked up to. -/
theorem callClasses_ofMethod (c : Container) {d kind : Char} (hd : Signature.isDelimiter d = true)
    (hkind : kind ∈ memberKinds) (owner : WrittenPath) (method : Identifier) (path : ClassPath)
    (name : Identifier) {argument : Argument} (rest : List Argument)
    (hargument : argument.payload? = some (memberSignature kind path name)) :
    c.callClasses (.ofMethod owner method (argument :: rest)) d (rest.length + 1)
      = ((c.index.literal? (memberSignature kind path name)).bind c.serviceClass?).toList := by
  have hcall := CallSite.alternative_ofMethod hd hkind owner method path name rest hargument
  rw [callClasses_of_alternative c hd hcall]

/-- **References are looked up.** A call whose first argument is a constant or a field of a class is
answered by the class of the service whose id is the literal of that member, if there are such a
literal and such a class, and by nothing else. If the member is the constant `class`, the answer is
that of the class path, and it stays the same whatever the look-ups of declarations and literals
answer. -/
theorem reference_names_its_service (c : Container) {d : Char}
    (hd : Signature.isDelimiter d = true) (owner written : WrittenPath) (method name : Identifier)
    (rest : List Argument) :
    c.callClasses (.ofMethod owner method
        (.classConstant (Declaration.constantSignature written.text name.text) :: rest)) d
          (rest.length + 1)
        = ((c.index.literal? (Declaration.constantSignature written.text name.text)).bind
            c.serviceClass?).toList
      ∧ c.callClasses (.ofMethod owner method
        (.fieldReference (Declaration.fieldSignature written.text name.text) :: rest)) d
          (rest.length + 1)
        = ((c.index.literal? (Declaration.fieldSignature written.text name.text)).bind
            c.serviceClass?).toList
      ∧ (name.text = "class" → ∀ bySignature literalOf?,
          (Container.mk { c.index with bySignature := bySignature, literalOf? := literalOf? }
              c.maxAliasDepth).callClasses
            (.ofMethod owner method
              (.classConstant (Declaration.constantSignature written.text name.text) :: rest)) d
              (rest.length + 1)
            = (c.serviceClass? written.text).toList) := by
  have hK : 'K' ∈ memberKinds := by decide
  have hP : 'P' ∈ memberKinds := by decide
  rw [constantSignature_written, fieldSignature_written]
  refine ⟨?_, ?_, ?_⟩
  · rw [callClasses_ofMethod c hd hK owner method written.path name rest rfl]
  · rw [callClasses_ofMethod c hd hP owner method written.path name rest rfl]
  · intro hname bySignature literalOf?
    generalize hother : Container.mk
      { c.index with bySignature := bySignature, literalOf? := literalOf? } c.maxAliasDepth = other
    have hservices : other.index.servicesAt = c.index.servicesAt := by rw [← hother]
    have hparameters : other.index.parametersAt = c.index.parametersAt := by rw [← hother]
    have hdepth : other.maxAliasDepth = c.maxAliasDepth := by rw [← hother]
    rw [callClasses_ofMethod other hd hK owner method written.path name rest rfl,
      Lookups.literal?_class _ _ _ hname, Option.bind_some, serviceClass?_written,
      serviceClass?_congr hservices hparameters hdepth]

/-- The constant `class` under the delimiter `.`, in a project whose one service is named after the
class; the call has a second argument and the class path is written from the root. -/
theorem reference_names_its_service_clock :
    let c : Container := ⟨Index.ofEntries [.service ⟨"App\\Clock", none, none, none⟩], defaultDepth⟩
    let app : Identifier := ⟨"App", by decide, by decide⟩
    let written : WrittenPath :=
      ⟨⟨[app, ⟨"Clock", by decide, by decide⟩], by decide⟩, true⟩
    written.text = "\\App\\Clock"
      ∧ c.callClasses (.ofMethod ⟨⟨[app], by decide⟩, false⟩ ⟨"get", by decide, by decide⟩
          [.classConstant (Declaration.constantSignature written.text "class"), .other "x"]) '.' 2
        = ["App\\Clock"] := by
  intro c app written
  refine ⟨by decide, ?_⟩
  have hclass := (reference_names_its_service c (d := '.') (by decide) ⟨⟨[app], by decide⟩, false⟩
    written ⟨"get", by decide, by decide⟩ ⟨"class", by decide, by decide⟩ [.other "x"]).2.2 rfl
    (fun _ => []) (fun _ => none)
  refine hclass.trans ?_
  decide +kernel

end Container

end Signpost
