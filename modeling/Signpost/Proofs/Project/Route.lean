/-
`Proofs/Project/Route.lean` -- where routes lead.

A route names its action as `Class::method`. Between that text and the declarations of the method
lie four readings: the controller is cut at its last `::` and the class put into normal form, the
two become the signature of a method, the signature is looked up as a type, and the index answers
with what it was told under that signature. Each of them could bring in something else, and none
does:

* an identifier holds no `:`, so the last `::` is the one before the method;
* the class path is its own normal form, so blanks and separators in front leave no trace;
* the signature of a member holds no `|`, so it is no union;
* it holds one `.`, so only a method of that class and that name has it.

The last point is why no condition on the log is needed. A class told with a `.` in its name has
members whose signatures hold two of them, and such a signature is not the one that is looked up.

Specification: 4.5 and 8.
-/
import Signpost.Proofs.Project.Goto
import Signpost.Proofs.Signature.Deferred

set_option autoImplicit false

namespace Signpost

/-! ## Controllers as they are written -/

/-- The text of a controller: a class path with any number of separators in front, a method, and
blanks around the whole. -/
structure WrittenController where
  before : Text.Blanks
  separators : Nat
  path : ClassPath
  method : Identifier
  after : Text.Blanks

namespace WrittenController

variable (controller : WrittenController)

/-- The class with the separators in front of it. -/
def owner : String :=
  String.ofList (List.replicate controller.separators ClassName.separator) ++ controller.path.text

/-- The text of the controller. -/
def text : String :=
  controller.before.text ++ (controller.owner ++ "::" ++ controller.method.text)
    ++ controller.after.text

theorem isBlank_of_mem_owner {c : Char} (hc : c ∈ controller.owner.toList) :
    Text.isBlank c = false := by
  rw [owner, String.toList_append, String.toList_ofList, List.mem_append] at hc
  have hpath : c = ClassName.separator ∨ Text.isWord c = true := by
    rcases hc with hc | hc
    · exact .inl (List.eq_of_mem_replicate hc)
    · exact controller.path.mem_text hc
  rcases hpath with rfl | hword
  · decide
  · exact Text.isBlank_of_isWord hword

theorem normalize_owner : ClassName.normalize controller.owner = controller.path.text := by
  have htrim : Text.trim controller.owner = controller.owner := by
    rw [← String.toList_inj, Text.toList_trim,
      Text.trimChars_eq_self fun c hc => controller.isBlank_of_mem_owner hc]
  obtain ⟨c, cs, hcs, hword⟩ := controller.path.exists_text_eq
  have hsep : c ≠ ClassName.separator := Text.ne_of_isWord hword (by decide)
  rw [ClassName.normalize, htrim, ← String.toList_inj, Text.toList_dropLeading, owner,
    String.toList_append, String.toList_ofList, List.dropWhile_append_of_pos, hcs,
    List.dropWhile_cons_of_neg (by simpa using hsep)]
  intro c hc
  rw [List.eq_of_mem_replicate hc, beq_self_eq_true]

/-- There are no blanks but those around the whole. -/
theorem trim_text :
    Text.trim controller.text = controller.owner ++ "::" ++ controller.method.text := by
  have hblank : ∀ c ∈ (controller.owner ++ "::" ++ controller.method.text).toList,
      Text.isBlank c = false := by
    intro c hc
    rw [String.toList_append, String.toList_append, List.mem_append, List.mem_append] at hc
    rcases hc with (hc | hc) | hc
    · exact controller.isBlank_of_mem_owner hc
    · obtain rfl : c = ':' := by simpa using hc
      decide
    · exact Text.isBlank_of_isWord (controller.method.isWord_of_mem hc)
  rw [← String.toList_inj, Text.toList_trim, text, String.toList_append, String.toList_append,
    Text.trimChars_append (fun c hc => controller.before.isBlank_of_mem hc)
      (fun c hc => controller.after.isBlank_of_mem hc),
    Text.trimChars_eq_self hblank]

end WrittenController

/-- A part without `:` stands behind the last `::`, whatever stands before it. -/
theorem Text.cutLast?_colons {right : String} (hright : ':' ∉ right.toList) (left : String) :
    cutLast? "::" (left ++ "::" ++ right) = some (left, right) := by
  -- a later `::` could overlap this one in its second `:`, but it would need one more behind it
  have hlast : cutLastChars? [':', ':'] ([':'] ++ right.toList) = none := by
    refine cutLastChars?_eq_none_of_count (c := ':') ?_
    rw [List.count_append, List.count_eq_zero_of_not_mem hright]
    decide
  have hcut := cutLastChars?_append hlast left.toList
  have htext : (left ++ "::" ++ right).toList = left.toList ++ [':', ':'] ++ right.toList := by simp
  rw [cutLast?, htext, show "::".toList = [':', ':'] from rfl, hcut]
  simp only [Option.map_some, String.ofList_toList]

/-- **A written controller is read as it is meant.** -/
theorem Route.controllerMethod?_written (controller : WrittenController) :
    controllerMethod? controller.text = some (controller.path.text, controller.method.text) := by
  have hcut := Text.cutLast?_colons (controller.method.notMem_text (c := ':') (by decide))
    controller.owner
  have hpath : controller.path.text ≠ "" := by
    obtain ⟨c, cs, hcs, -⟩ := controller.path.exists_text_eq
    rw [ne_eq, ← String.toList_eq_nil_iff, hcs]
    exact List.cons_ne_nil c cs
  simp [controllerMethod?, controller.trim_text, hcut, controller.normalize_owner, hpath,
    controller.method.text_ne]

/-! ## The methods of a class -/

/-- The methods of that name in a class that a log tells, in order. -/
def Index.toldMethods (log : List Entry) (owner name : String) : List Declaration :=
  (log.filterMap Entry.declaration?).filter fun x =>
    x.member? = some ⟨.method, ClassName.normalize owner, name⟩

/-- **A method is looked up by class and name.** -/
theorem Index.byType_methodSignature (log : List Entry) (path : ClassPath) (name : Identifier) :
    (ofEntries log).lookups.byType (Declaration.methodSignature path.text name.text)
      = keepFirst Declaration.identity (toldMethods log path.text name.text) := by
  have hfree : Signature.unionMark ∉ (memberSignature 'M' path name).toList :=
    Signature.notMem_memberSignature (by decide) path name (by decide) (by decide) (by decide)
      (by decide)
  rw [methodSignature_text, Lookups.byType_eq_bySignature _ hfree, bySignature_lookups,
    bySignature_ofEntries, toldMethods, path.normalize_text]
  -- both lists are what was told, once by signature and once by member
  congr 1
  refine List.filter_congr fun x _ => ?_
  rw [decide_eq_decide]
  exact Declaration.signature?_eq_memberSignature_iff (by decide) path name

/-- What is told as a method was told so itself: entering a class makes the class known only. -/
theorem Index.exists_entry_of_mem_toldMethods {log : List Entry} {owner name : String}
    {x : Declaration} (h : x ∈ toldMethods log owner name) :
    ∃ written location literal, x = .method written name location
      ∧ ClassName.normalize written = ClassName.normalize owner
      ∧ Entry.element x literal ∈ log := by
  obtain ⟨hx, hmember⟩ := List.mem_filter.mp h
  rw [decide_eq_true_eq] at hmember
  obtain ⟨e, he, hdeclaration⟩ := List.mem_filterMap.mp hx
  cases x with
  | method written last location =>
    simp only [Declaration.member?, Option.some.injEq, Declaration.Member.mk.injEq,
      true_and] at hmember
    obtain ⟨howner, rfl⟩ := hmember
    -- of the entries that tell something known by signature, only elements can tell a method
    cases e with
    | element y literal =>
      obtain rfl := Option.some.inj hdeclaration
      exact ⟨written, location, literal, rfl, howner, he⟩
    | classInfo c =>
      have hclass := Option.some.inj hdeclaration
      rw [ClassInfo.declaration] at hclass
      cases hclass
    | _ => cases hdeclaration
  | _ => simp [Declaration.member?] at hmember

namespace Project

/-- **A route leads to the methods of its controller.** Let the last route that was told under the
name in the token have a controller that names a class path and a method. Then go-to answers, and
with exactly the methods told for that class and that name, each identity once and in the order in
which they came first; nothing else is among them. -/
theorem route_leads_to_its_methods (log : List Entry) (settings : Settings) (d : Document)
    (t : NodeId) (controller : WrittenController) {route : Route}
    (hrole : (Project.mk (Index.ofEntries log) settings).role? d t = some .routeNameReference)
    (hroute : ((log.filterMap Entry.route?).filter fun r => r.name = d.textOf t).getLast?
      = some route)
    (hcontroller : route.controller = some controller.text) :
    ∃ targets, (Project.mk (Index.ofEntries log) settings).goto? d t = some targets
      ∧ targets = keepFirst Declaration.identity
          (Index.toldMethods log controller.path.text controller.method.text)
      ∧ (targets.map Declaration.identity).Nodup
      ∧ ∀ x ∈ targets, ∃ owner location literal,
          x = .method owner controller.method.text location
            ∧ ClassName.normalize owner = ClassName.normalize controller.path.text
            ∧ Entry.element x literal ∈ log := by
  refine ⟨_, ?_, rfl, nodup_map_keepFirst _ _, ?_⟩
  · have hfound : (Index.ofEntries log).route? (d.textOf t) = some route := by
      rw [Index.route?_ofEntries, hroute]
    have hread : route.controller.bind Route.controllerMethod?
        = some (controller.path.text, controller.method.text) := by
      rw [hcontroller, Option.bind_some, Route.controllerMethod?_written]
    rw [goto?, hrole, Option.bind_some, targets?]
    refine routeTargets?_eq_some_iff.mpr ⟨route, hfound, .inr ⟨_, _, hread, ?_⟩⟩
    exact (Index.byType_methodSignature log controller.path controller.method).symm
  · intro x hx
    exact Index.exists_entry_of_mem_toldMethods ((keepFirst_sublist _ _).subset hx)

/-- The action of `home` in a second file, with its class written from the root. -/
def oldHomeAction : Declaration := .method "\\App\\Home" "show" ⟨⟨"old/Home.php"⟩, none⟩

/-- The route `home`, its controller with a separator in front and blanks around it. -/
def homeRoute : Route := ⟨"home", some " \\App\\Home::show\n", none⟩

/-- The action of `home` is told from two files, the first of them twice; a constant of that name, an
action of another class and the class itself are told as well, and `home` was another route before. -/
def homeLog : List Entry :=
  [.element homeAction none, .route ⟨"home", some "App\\Start::show", none⟩,
    .element (.constant "App\\Home" "show" ⟨⟨"src/Home.php"⟩, none⟩) (some "home"),
    .classInfo ⟨"App\\Home", ⟨⟨"src/Home.php"⟩, none⟩, none, none⟩,
    .element (.method "App\\Start" "show" ⟨⟨"src/Start.php"⟩, none⟩) none,
    .element oldHomeAction none, .element (.method "App\\Home" "show" ⟨⟨"src//Home.php"⟩, none⟩) none,
    .route homeRoute]

/-- The link to `home` leads to both declarations of its action. -/
theorem route_leads_to_its_methods_home :
    (Project.mk (Index.ofEntries homeLog) .default).goto? linkedPage 3
      = some [homeAction, oldHomeAction] := by
  let controller : WrittenController :=
    ⟨⟨" ", by decide⟩, 1,
      ⟨[⟨"App", by decide, by decide⟩, ⟨"Home", by decide, by decide⟩], by decide⟩,
      ⟨"show", by decide, by decide⟩, ⟨"\n", by decide⟩⟩
  have hroute : ((homeLog.filterMap Entry.route?).filter
      fun r => r.name = linkedPage.textOf 3).getLast? = some homeRoute := by decide +kernel
  have hcontroller : homeRoute.controller = some controller.text := by decide +kernel
  obtain ⟨targets, hgoto, htargets, -⟩ := route_leads_to_its_methods homeLog .default linkedPage 3
    controller (by decide +kernel) hroute hcontroller
  rw [hgoto, htargets]
  decide +kernel

end Project

end Signpost
