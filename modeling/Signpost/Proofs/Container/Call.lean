/-
`Proofs/Container/Call.lean` -- literal arguments of calls.

A call is answered in four steps: its argument is written into a signature, the signature is taken
apart again, the argument is looked up, and the class of the service of that id is the answer. The
argument is written as it is, so the later steps read it by their own rules: a `|` in it starts
another alternative, and a `#` at its front makes it a reference.

The first half of this module is the way without such marks. A call whose base and payload are free
of `|` is one alternative, and it stands for what its payload is looked up to. The second half shows
that nothing weaker will do. For every literal that holds a mark where it is read as one there is a
project in which the call and the service of that id part ways; one service is enough, the one whose
id is the literal itself, because every id that the steps arrive at has fewer of the marks than the
literal has and so is another service.

Specification: 4.3 and B.6, item 12.
-/
import Signpost.Container
import Signpost.Proofs.Index.Key
import Signpost.Proofs.Signature.Union

set_option autoImplicit false

namespace Signpost

/-! ## What an argument stands for -/

namespace Lookups

/-- A reference to the constant `class` is the class path between a fixed start and one of two ends,
the second of which leaves the name of the constant out. -/
theorem classConstant?_eq_some {s path : String} (h : classConstant? s = some path) :
    ∃ stop ∈ [".class", "."], s = "#K#C" ++ path ++ stop := by
  rw [classConstant?, Option.bind_eq_some_iff] at h
  obtain ⟨rest, hrest, hpath⟩ := h
  have hstop : ∃ stop ∈ [".class", "."], Text.before? stop rest = some path := by
    cases hclass : Text.before? ".class" rest with
    | none =>
      rw [hclass] at hpath
      exact ⟨".", by simp, hpath⟩
    | some found =>
      rw [hclass] at hpath
      exact ⟨".class", by simp, hclass.trans hpath⟩
  obtain ⟨stop, hmem, hbefore⟩ := hstop
  refine ⟨stop, hmem, ?_⟩
  rw [Text.after?_eq_some_iff.mp hrest, Text.before?_eq_some_iff.mp hbefore, String.append_assoc]

/-- A text that is no reference stands for itself. -/
theorem literal?_of_not_deferred (i : Lookups) {s : String} (h : Signature.isDeferred s = false) :
    i.literal? s = some s := by
  have hnone : classConstant? s = none := by
    rw [Option.eq_none_iff_forall_not_mem]
    intro path hpath
    obtain ⟨stop, -, rfl⟩ := classConstant?_eq_some hpath
    have hmark : Signature.isDeferred ("#K#C" ++ path ++ stop) = true := by
      rw [Signature.isDeferred, Text.startsWith_eq_true_iff]
      exact ⟨'K' :: '#' :: 'C' :: (path ++ stop).toList, by simp [Signature.deferredMark]⟩
    rw [h] at hmark
    exact absurd hmark (by decide)
  rw [literal?, literal, hnone, h]
  rfl

end Lookups

/-! ## One alternative -/

namespace Container

/-- **A call without unions** stands for what its payload is looked up to. -/
theorem callClasses_of_alternative (c : Container) {call : CallSite} {d : Char} {expected : Nat}
    {part : String × String} (hd : Signature.isDelimiter d = true)
    (h : call.Alternative d expected part) :
    c.callClasses call d expected
      = ((c.index.literal? part.2).bind c.serviceClass?).toList := by
  rw [callClasses, h.encode?_eq]
  simp only [c.signatureClasses_of_free d (h.encoded_free hd)]
  rw [branchClass?, h.split?_eq]
  rfl

/-! ## A project of one service -/

/-- The definition of a service with a class of its own. -/
def soleService (id : String) : ServiceDefinition := ⟨id, some "Service", none, none⟩

/-- The index of a project in which that service is the one thing known. -/
def soleIndex (id : String) : Index := Index.ofEntries [.service (soleService id)]

/-- The container of that project. -/
def ofService (id : String) (depth : Nat) : Container := ⟨soleIndex id, depth⟩

theorem index_ofService (id : String) (depth : Nat) : (ofService id depth).index = soleIndex id := by
  rw [ofService]

section OneService

variable {id : String} {depth : Nat}

theorem service?_ofService (other : String) :
    (ofService id depth).service? other
      = (ServiceKey.ofText? other).bind fun key =>
          if ServiceKey.ofText? id = some key then some (soleService id) else none := by
  rw [service?]
  refine congrArg _ (funext fun key => ?_)
  rw [index_ofService, soleIndex, Index.servicesAt_lookups, Index.servicesAt_ofEntries]
  by_cases hkey : ServiceKey.ofText? id = some key
  · simp [Entry.service?, soleService, hkey]
  · simp [Entry.service?, soleService, hkey]

/-- The service is found under its own id. -/
theorem serviceClass?_ofService_self {key : ServiceKey} (hkey : ServiceKey.ofText? id = some key) :
    (ofService id depth).serviceClass? id = some "Service" := by
  have hlead : lead (soleService id) = .classText "Service" := rfl
  have hclass : (ofService id depth).className? "Service" = some "Service" := rfl
  rw [serviceClass?, service?_ofService, hkey, Option.bind_some, if_pos rfl, Option.bind_some,
    classOf?, hlead]
  exact hclass

/-- An id that disagrees about a kept character is another service, which is not there. -/
theorem serviceClass?_ofService_of_count_ne {x : Char} (hx : ServiceKey.Kept x) {other : String}
    (hcount : other.toList.count x ≠ id.toList.count x) :
    (ofService id depth).serviceClass? other = none := by
  have hservice : (ofService id depth).service? other = none := by
    rw [service?_ofService]
    cases hother : ServiceKey.ofText? other with
    | none => rfl
    | some key =>
      rw [Option.bind_some, if_neg]
      intro hid
      exact ServiceKey.ofText?_ne_of_count_ne hx hid hcount hother
  rw [serviceClass?, hservice]
  rfl

/-- Nothing is known by signature, so a reference is looked up to something only if it is the
constant `class` of a class. -/
theorem literal?_ofService {argument value : String}
    (h : (ofService id depth).index.literal? argument = some value) :
    (Signature.isDeferred argument = false ∧ value = argument)
      ∨ ∃ stop, argument = "#K#C" ++ value ++ stop := by
  by_cases hdeferred : Signature.isDeferred argument = false
  · rw [Lookups.literal?_of_not_deferred _ hdeferred] at h
    exact Or.inl ⟨hdeferred, (Option.some.inj h).symm⟩
  · rw [Bool.not_eq_false] at hdeferred
    rw [Lookups.literal?, Lookups.literal] at h
    cases hconstant : Lookups.classConstant? argument with
    | some path =>
      rw [hconstant] at h
      obtain rfl : path = value := Option.some.inj h
      obtain ⟨stop, -, hargument⟩ := Lookups.classConstant?_eq_some hconstant
      exact Or.inr ⟨stop, hargument⟩
    | none =>
      have hnone : (ofService id depth).index.bySignature argument = [] := by
        rw [index_ofService, soleIndex, Index.bySignature_lookups, Index.bySignature_ofEntries]
        rfl
      rw [hconstant, hdeferred, hnone] at h
      cases h

/-- Looking an argument up never brings a `|` in. -/
theorem unionMark_notMem_literal {argument value : String}
    (h : (ofService id depth).index.literal? argument = some value)
    (hfree : Signature.unionMark ∉ argument.toList) : Signature.unionMark ∉ value.toList := by
  rcases literal?_ofService h with ⟨-, rfl⟩ | ⟨stop, rfl⟩
  · exact hfree
  · simp only [String.toList_append, List.mem_append, not_or] at hfree
    exact hfree.1.2

/-- It takes a `#` off every reference that it finds. -/
theorem count_deferredMark_literal {argument value : String}
    (h : (ofService id depth).index.literal? argument = some value)
    (hdeferred : Signature.isDeferred argument = true) :
    value.toList.count Signature.deferredMark
      < argument.toList.count Signature.deferredMark := by
  rcases literal?_ofService h with ⟨hnot, -⟩ | ⟨stop, rfl⟩
  · rw [hdeferred] at hnot
    exact absurd hnot (by decide)
  · have hstart : "#K#C".toList.count Signature.deferredMark = 2 := by decide
    simp only [String.toList_append, List.count_append, hstart]
    omega

/-- **A service whose id holds a `|` is the answer to no call**: whatever the call, the id is cut at
that mark before it is looked up. -/
theorem callClasses_ofService_of_unionMark (hmark : Signature.unionMark ∈ id.toList)
    (call : CallSite) (d : Char) (expected : Nat) :
    (ofService id depth).callClasses call d expected = [] := by
  -- an alternative is free of `|`, so is its argument, and so is whatever that is looked up to
  have hbranch : ∀ branch, Signature.unionMark ∉ branch.toList →
      (ofService id depth).branchClass? d branch = none := by
    intro branch hfree
    rw [branchClass?, Option.bind_eq_bind, Option.bind_eq_none_iff]
    rintro ⟨base, argument⟩ hsplit
    rw [(Signature.split?_eq_some_iff.mp hsplit).1, String.toList_append, List.mem_append,
      not_or] at hfree
    rw [Option.bind_eq_bind, Option.bind_eq_none_iff]
    intro value hvalue
    have hnone : value.toList.count Signature.unionMark = 0 :=
      List.count_eq_zero_of_not_mem (unionMark_notMem_literal hvalue hfree.2)
    have hsome : 0 < id.toList.count Signature.unionMark := List.count_pos_iff.mpr hmark
    refine serviceClass?_ofService_of_count_ne ServiceKey.kept_unionMark ?_
    exact Nat.ne_of_lt (hnone ▸ hsome)
  rw [callClasses]
  cases call.encode? d expected with
  | none => rfl
  | some signature =>
    have hempty : ((Signature.branches signature).filter (!·.isEmpty)).filterMap
        ((ofService id depth).branchClass? d) = [] := by
      rw [List.filterMap_eq_nil_iff]
      intro branch hmem
      exact hbranch branch (Text.separator_notMem_of_mem_split (List.mem_of_mem_filter hmem))
    simp only [signatureClasses]
    rw [hempty, distinctBy_nil]

end OneService

end Container

/-! ## Literals that stand for themselves -/

/-- The call of a method with a string literal as its one argument. -/
def CallSite.ofLiteral (path : ClassPath) (name : Identifier) (s : String) : CallSite :=
  ⟨some (Declaration.methodSignature path.text name.text), [.stringLiteral s]⟩

/-- Such a call is one alternative as soon as the literal is free of `|`. -/
theorem CallSite.alternative_ofLiteral {d : Char} (hd : Signature.isDelimiter d = true)
    (path : ClassPath) (name : Identifier) {s : String} (hs : s ≠ "")
    (hfree : Signature.unionMark ∉ s.toList) :
    (ofLiteral path name s).Alternative d 1 (memberSignature 'M' path name, s) := by
  have hkind : 'M' ∈ memberKinds := by decide
  refine ⟨⟨?_, ?_, rfl, rfl, hs⟩, Signature.separable_memberSignature hd hkind path name, ?_, hfree⟩
  · rw [ofLiteral, methodSignature_text]
  · rw [ne_eq, ← String.toList_eq_nil_iff, toList_memberSignature]
    simp
  · exact Signature.notMem_memberSignature hkind path name (by decide) (by decide) (by decide)
      (by decide)

namespace Container

/-- A call with a reference in the place of its literal does not find the service of that id. -/
theorem callClasses_ofService_of_deferred {d : Char} (hd : Signature.isDelimiter d = true)
    (depth : Nat) (path : ClassPath) (name : Identifier) {s : String} (hs : s ≠ "")
    (hfree : Signature.unionMark ∉ s.toList) (hdeferred : Signature.isDeferred s = true) :
    (ofService s depth).callClasses (.ofLiteral path name s) d 1 = [] := by
  have hnone : ((ofService s depth).index.literal? s).bind (ofService s depth).serviceClass?
      = none := by
    rw [Option.bind_eq_none_iff]
    intro value hvalue
    refine serviceClass?_ofService_of_count_ne ServiceKey.kept_deferredMark ?_
    exact Nat.ne_of_lt (count_deferredMark_literal hvalue hdeferred)
  rw [callClasses_of_alternative _ hd (CallSite.alternative_ofLiteral hd path name hs hfree), hnone]
  rfl

/-- A call that finds nothing is not answered by the service, if its id has a key. -/
theorem callClasses_ofService_ne {x : Char} (hx : ServiceKey.Kept x) {id : String}
    (hmem : x ∈ id.toList) {depth : Nat} {call : CallSite} {d : Char} {expected : Nat}
    (hnil : (ofService id depth).callClasses call d expected = []) :
    (ofService id depth).callClasses call d expected
      ≠ ((ofService id depth).serviceClass? id).toList := by
  obtain ⟨key, hkey⟩ := ServiceKey.exists_ofText? hx hmem
  rw [hnil, serviceClass?_ofService_self hkey]
  exact (List.cons_ne_nil "Service" []).symm

/-- **Which literals stand for themselves.** The call of a method with a string literal is answered,
in every project, by the class of the service of that id exactly when the literal holds no `|` and
does not start with `#`. Such a literal stands for itself whatever answers the look-ups; for any
other there is an index, of one service, in which it does not. -/
theorem literal_names_its_service_iff {d : Char} (hd : Signature.isDelimiter d = true) (depth : Nat)
    (path : ClassPath) (name : Identifier) {s : String} (hs : s ≠ "") :
    ((∀ i : Index, (Container.mk i depth).callClasses (.ofLiteral path name s) d 1
        = ((Container.mk i depth).serviceClass? s).toList)
      ↔ Signature.unionMark ∉ s.toList ∧ Signature.isDeferred s = false)
    ∧ (Signature.unionMark ∉ s.toList ∧ Signature.isDeferred s = false →
      ∀ i : Lookups, (Container.mk i depth).callClasses (.ofLiteral path name s) d 1
        = ((Container.mk i depth).serviceClass? s).toList) := by
  have hplain : Signature.unionMark ∉ s.toList ∧ Signature.isDeferred s = false →
      ∀ i : Lookups, (Container.mk i depth).callClasses (.ofLiteral path name s) d 1
        = ((Container.mk i depth).serviceClass? s).toList := by
    rintro ⟨hfree, hplain⟩ i
    rw [callClasses_of_alternative _ hd (CallSite.alternative_ofLiteral hd path name hs hfree),
      Lookups.literal?_of_not_deferred i hplain, Option.bind_some]
  refine ⟨⟨?_, fun hmarks i => hplain hmarks i⟩, hplain⟩
  · intro h
    -- the one project that has to be asked about is the one whose only service has this id
    have hsole : (ofService s depth).callClasses (.ofLiteral path name s) d 1
        = ((ofService s depth).serviceClass? s).toList := h (soleIndex s)
    have hfree : Signature.unionMark ∉ s.toList := by
      intro hmark
      have hnil : (ofService s depth).callClasses (.ofLiteral path name s) d 1 = [] :=
        callClasses_ofService_of_unionMark hmark (.ofLiteral path name s) d 1
      exact callClasses_ofService_ne ServiceKey.kept_unionMark hmark hnil hsole
    refine ⟨hfree, ?_⟩
    rw [← Bool.not_eq_true]
    intro hdeferred
    have hmark : Signature.deferredMark ∈ s.toList := by
      obtain ⟨cs, hcs⟩ := Text.startsWith_eq_true_iff.mp hdeferred
      rw [hcs]
      exact List.mem_cons_self
    have hnil := callClasses_ofService_of_deferred hd depth path name hs hfree hdeferred
    exact callClasses_ofService_ne ServiceKey.kept_deferredMark hmark hnil hsole

/-- A literal with a `.` under the delimiter `.` stands for itself; one with a `|` does not. -/
theorem literal_names_its_service_iff_dotted :
    (∀ i : Index, (Container.mk i defaultDepth).callClasses
        (.ofLiteral ⟨[⟨"App", by decide, by decide⟩], by decide⟩ ⟨"get", by decide, by decide⟩
          "app.mailer") '.' 1
        = ((Container.mk i defaultDepth).serviceClass? "app.mailer").toList)
      ∧ ¬ ∀ i : Index, (Container.mk i defaultDepth).callClasses
        (.ofLiteral ⟨[⟨"App", by decide, by decide⟩], by decide⟩ ⟨"get", by decide, by decide⟩
          "x|y") '.' 1
        = ((Container.mk i defaultDepth).serviceClass? "x|y").toList := by
  have hiff := fun (s : String) (hs : s ≠ "") =>
    (literal_names_its_service_iff (d := '.') (by decide) defaultDepth
      ⟨[⟨"App", by decide, by decide⟩], by decide⟩ ⟨"get", by decide, by decide⟩ hs).1
  constructor
  · exact (hiff "app.mailer" (by decide)).mpr (by decide)
  · rw [hiff "x|y" (by decide)]
    decide

/-- A literal with a `|` is answered by the service that its first half names, and one that looks
like a reference by the class in it; the services of the two ids are another one and none. -/
theorem marked_literal_misses_its_service :
    let c : Container := ⟨Index.ofEntries [.service ⟨"x", some "App\\X", none, none⟩,
      .service ⟨"x|y", some "App\\XY", none, none⟩,
      .service ⟨"App\\Clock", none, none, none⟩], defaultDepth⟩
    let get := Declaration.methodSignature "A" "get"
    (c.callClasses ⟨some get, [.stringLiteral "x|y"]⟩ '?' 1 = ["App\\X"]
        ∧ (c.serviceClass? "x|y").toList = ["App\\XY"])
      ∧ c.callClasses ⟨some get, [.stringLiteral "#K#C\\App\\Clock.class"]⟩ '?' 1 = ["App\\Clock"]
        ∧ (c.serviceClass? "#K#C\\App\\Clock.class").toList = [] := by
  decide +kernel

end Container

end Signpost
