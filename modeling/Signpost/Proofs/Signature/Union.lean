/-
`Proofs/Signature/Union.lean` -- answers to unions.

Two questions take a signature that may be a union: which classes a call stands for, and which
declarations a type names. Both are answered one alternative after the other, and of what the
alternatives contribute the first of each key is kept. `Branchwise` says so, and everything about
unions follows from it without a look at what the alternatives are asked: the answer to a union of
any texts, unions themselves or not, is the merge of the answers to the texts, so an alternative
that contributes nothing new can be left out.

Only one of the two is `Branchwise` by its definition. The look-up of types takes a shortcut for a
signature without `|`, which it hands to the index as it is: there is no test for the empty text on
that way, and no merging. The answer is the same because of what the index holds. Every signature
starts with a `#`, so nothing is found under the empty one; and under each signature a declaration
stands once, so there is nothing to merge.

Specification: 4.1 and B.6, items 1, 2 and 12.
-/
import Signpost.Container
import Signpost.Proofs.Index.Filed
import Signpost.Proofs.Signature.Codec
import Mathlib.Data.List.Basic

set_option autoImplicit false

namespace Signpost

namespace Signature

/-! ## Alternatives of a union of texts -/

/-- Texts that are joined by `|` have the branches of both. -/
theorem branches_append (s t : String) :
    branches (s ++ "|" ++ t) = branches s ++ branches t := by
  have htext : (s ++ "|" ++ t).toList = s.toList ++ unionMark :: t.toList := by simp [unionMark]
  rw [branches, Text.split, htext, List.splitOn_append_cons_self, List.map_append]
  rfl

/-- A union is its first text, a `|` and the union of the others. -/
theorem union_cons {parts : List String} (hne : parts ≠ []) (part : String) :
    union (part :: parts) = part ++ "|" ++ union parts :=
  String.intercalate_cons_of_ne_nil hne

/-- The texts of a union may be unions themselves. -/
theorem branches_union_eq_flatMap {parts : List String} (hne : parts ≠ []) :
    branches (union parts) = parts.flatMap branches := by
  induction parts with
  | nil => exact absurd rfl hne
  | cons part parts ih =>
    rw [List.flatMap_cons]
    -- behind the last text there is no mark
    by_cases hlast : parts = []
    · rw [hlast, union_singleton, List.flatMap_nil, List.append_nil]
    · rw [union_cons hlast, branches_append, ih hlast]

/-! ## Answers that are put together from those of the alternatives -/

/-- The test for the empty text only spares a look-up that would find nothing. -/
theorem flatMap_filter_nonEmpty {α : Type} {single : String → List α} (hempty : single "" = [])
    (parts : List String) : (parts.filter (!·.isEmpty)).flatMap single = parts.flatMap single := by
  induction parts with
  | nil => rfl
  | cons part parts ih =>
    rw [List.flatMap_cons, List.filter_cons]
    by_cases hpart : part = ""
    · rw [hpart, hempty, List.nil_append, ← ih]
      rfl
    · rw [if_pos (by simpa using hpart), List.flatMap_cons, ih]

/-- Each alternative has a list of its own, the empty one an empty list, and the answer keeps the
first of each key. -/
structure Branchwise {α κ : Type} [DecidableEq κ] (key : α → κ) (single answer : String → List α) :
    Prop where
  single_empty : single "" = []
  answer_eq : ∀ s, answer s = keepFirst key ((branches s).flatMap single)

namespace Branchwise

variable {α κ : Type} [DecidableEq κ] {key : α → κ} {single answer : String → List α}
  (h : Branchwise key single answer)

include h

/-- A text free of `|` is answered by what it has itself. -/
theorem answer_of_free {s : String} (hs : unionMark ∉ s.toList) :
    answer s = keepFirst key (single s) := by
  rw [h.answer_eq, branches_eq_singleton hs, List.flatMap_singleton]

/-- The empty text has no answer. -/
theorem answer_empty : answer "" = [] := by
  rw [h.answer_of_free (by simp), h.single_empty]
  rfl

/-- No key comes twice in an answer. -/
theorem nodup (s : String) : ((answer s).map key).Nodup := by
  rw [h.answer_eq]
  exact nodup_map_keepFirst key _

/-- **The answer to a union is the merge of the answers**, whatever texts it joins. -/
theorem answer_union (parts : List String) :
    answer (union parts) = keepFirst key (parts.flatMap answer) := by
  by_cases hne : parts = []
  · -- no texts join to the empty text, which is one alternative and not none
    rw [hne]
    exact h.answer_empty
  · have hmerge : parts.flatMap answer
        = parts.flatMap fun part => keepFirst key ((branches part).flatMap single) :=
      List.flatMap_congr fun part _ => h.answer_eq part
    rw [h.answer_eq, branches_union_eq_flatMap hne, List.flatMap_assoc, hmerge,
      keepFirst_flatMap_keepFirst]

/-- **The answer to a union is the merge of the answers.** -/
theorem answer_append (s t : String) :
    answer (s ++ "|" ++ t) = keepFirst key (answer s ++ answer t) := by
  have hunion : union [s, t] = s ++ "|" ++ t := by
    rw [union_cons (List.cons_ne_nil t []), union_singleton]
  rw [← hunion, h.answer_union, List.flatMap_cons, List.flatMap_singleton]

/-- A text that contributes nothing new can be left out: one without an answer, or one whose answer
has come before. -/
theorem answer_union_insert {before : List String} {part : String}
    (hseen : ∀ x ∈ answer part, holdsKey key (before.flatMap answer) (key x) = true)
    (after : List String) :
    answer (union (before ++ part :: after)) = answer (union (before ++ after)) := by
  rw [h.answer_union, h.answer_union, List.flatMap_append, List.flatMap_cons, List.flatMap_append,
    keepFirst_append_append_of_seen hseen]

end Branchwise

end Signature

/-! ## The classes of a call -/

namespace Container

variable (c : Container) (d : Char)

/-- A text without an argument stands for no class. -/
theorem branchClass?_of_split?_eq_none {branch : String} (h : Signature.split? d branch = none) :
    c.branchClass? d branch = none := by
  rw [branchClass?, h]
  rfl

/-- The classes of a signature are found branch by branch. -/
theorem branchwise_signatureClasses :
    Signature.Branchwise id (fun branch => (c.branchClass? d branch).toList)
      fun signature => c.signatureClasses signature d := by
  -- an argument stands behind a delimiter, and the empty text holds none
  have hempty : c.branchClass? d "" = none := by
    refine c.branchClass?_of_split?_eq_none d ?_
    rw [Option.eq_none_iff_forall_not_mem]
    rintro ⟨base, argument⟩ hsplit
    have htext := congrArg String.toList (Signature.split?_eq_some_iff.mp hsplit).1
    simp at htext
  refine ⟨by rw [hempty]; rfl, ?_⟩
  intro s
  show distinctBy id _ = _
  rw [distinctBy_eq_keepFirst, List.filterMap_eq_flatMap_toList,
    Signature.flatMap_filter_nonEmpty (by rw [hempty]; rfl)]

/-- A signature without a `|` stands for one class at most. -/
theorem signatureClasses_of_free {s : String} (hs : Signature.unionMark ∉ s.toList) :
    c.signatureClasses s d = (c.branchClass? d s).toList := by
  have hanswer := (c.branchwise_signatureClasses d).answer_of_free hs
  rwa [← distinctBy_eq_keepFirst, distinctBy_toList] at hanswer

/-- A class is an answer when one of the branches stands for it. -/
theorem mem_signatureClasses {s name : String} :
    name ∈ c.signatureClasses s d
      ↔ ∃ branch ∈ Signature.branches s, c.signatureClasses branch d = [name] := by
  rw [(c.branchwise_signatureClasses d).answer_eq s, mem_keepFirst_id, List.mem_flatMap]
  refine exists_congr fun branch => and_congr_right fun hbranch => ?_
  -- an alternative is free of `|`, so asked alone it has no other alternatives
  rw [c.signatureClasses_of_free d (Text.separator_notMem_of_mem_split hbranch)]
  cases c.branchClass? d branch with
  | none => simp
  | some found => simp [eq_comm]

/-- **A union of calls stands for what its alternatives stand for.** The classes of two signatures
joined by `|` are those of the first and then those of the second, each class where it is seen first;
the same for any number of them. So no class is there twice; an empty alternative, one without an
argument and one that came before change nothing; and a class is there just when it is the one class
of some alternative alone. -/
theorem union_stands_for_its_branches (c : Container) (d : Char) :
    (∀ s t, c.signatureClasses (s ++ "|" ++ t) d
      = keepFirst id (c.signatureClasses s d ++ c.signatureClasses t d))
    ∧ (∀ parts, c.signatureClasses (Signature.union parts) d
      = keepFirst id (parts.flatMap fun part => c.signatureClasses part d))
    ∧ (∀ s, (c.signatureClasses s d).Nodup)
    ∧ (∀ before after, c.signatureClasses (Signature.union (before ++ "" :: after)) d
      = c.signatureClasses (Signature.union (before ++ after)) d)
    ∧ (∀ before after branch, Signature.unionMark ∉ branch.toList →
      Signature.split? d branch = none →
        c.signatureClasses (Signature.union (before ++ branch :: after)) d
          = c.signatureClasses (Signature.union (before ++ after)) d)
    ∧ (∀ before after, ∀ part ∈ before,
        c.signatureClasses (Signature.union (before ++ part :: after)) d
          = c.signatureClasses (Signature.union (before ++ after)) d)
    ∧ ∀ s name, name ∈ c.signatureClasses s d
      ↔ ∃ branch ∈ Signature.branches s, c.signatureClasses branch d = [name] := by
  have hclasses := c.branchwise_signatureClasses d
  refine ⟨hclasses.answer_append, hclasses.answer_union, ?_, ?_, ?_, ?_,
    fun _ _ => c.mem_signatureClasses d⟩
  · intro s
    have hnodup := hclasses.nodup s
    rwa [List.map_id] at hnodup
  · intro before after
    refine hclasses.answer_union_insert ?_ after
    rw [hclasses.answer_empty]
    exact fun _ hx => absurd hx List.not_mem_nil
  · intro before after branch hfree hsplit
    refine hclasses.answer_union_insert ?_ after
    rw [c.signatureClasses_of_free d hfree, c.branchClass?_of_split?_eq_none d hsplit]
    exact fun _ hx => absurd hx List.not_mem_nil
  · intro before after part hpart
    refine hclasses.answer_union_insert ?_ after
    intro x hx
    exact holdsKey_eq_true_iff.mpr ⟨x, List.mem_flatMap.mpr ⟨part, hpart, hx⟩, rfl⟩

/-- Two services and a union of four calls, the second without an argument and the last a repetition
of the first. -/
theorem union_stands_for_its_branches_repeated :
    let c : Container := ⟨Index.ofEntries [.service ⟨"clock", some "App\\Clock", none, none⟩,
      .service ⟨"mailer", some "App\\Mailer", none, none⟩], defaultDepth⟩
    c.signatureClasses
        "#M#C\\A.get?mailer|#M#C\\A.get|#M#C\\A.get?clock|#M#C\\A.get?mailer" '?'
      = ["App\\Mailer", "App\\Clock"] := by
  intro c
  obtain ⟨-, -, -, -, hwithout, hagain, -⟩ := union_stands_for_its_branches c '?'
  have hcalls := hwithout ["#M#C\\A.get?mailer"] ["#M#C\\A.get?clock", "#M#C\\A.get?mailer"]
    "#M#C\\A.get" (by decide) (by decide +kernel)
  have hmailer := hagain ["#M#C\\A.get?mailer", "#M#C\\A.get?clock"] [] "#M#C\\A.get?mailer"
    (by simp)
  refine hcalls.trans (hmailer.trans ?_)
  decide +kernel

end Container

/-! ## The declarations of a type -/

/-- Every signature starts with a mark. -/
theorem Declaration.signature?_ne_empty (x : Declaration) : x.signature? ≠ some "" := by
  cases x with
  | classDef => simp [signature?, classSignature]
  | method => simp [signature?, methodSignature]
  | field => simp [signature?, fieldSignature]
  | constant => simp [signature?, constantSignature]
  | _ => simp [signature?]

namespace Index

/-- No declaration has the empty signature, so an index has nothing under it. -/
theorem bySignature_empty (log : List Entry) : (ofEntries log).bySignature "" = [] := by
  rw [bySignature_ofEntries, List.filter_eq_nil_iff.mpr]
  · rfl
  · intro x _
    rw [decide_eq_true_eq]
    exact x.signature?_ne_empty

/-- **The shortcut changes no answer**, since the index is that of a log. -/
theorem branchwise_byType (log : List Entry) :
    Signature.Branchwise Declaration.identity (ofEntries log).bySignature
      (ofEntries log).lookups.byType := by
  have hempty := bySignature_empty log
  refine ⟨hempty, ?_⟩
  intro s
  -- the look-up takes its two ways by the same test
  by_cases hmark : Signature.unionMark ∈ s.toList
  · unfold Lookups.byType Declaration.distinct
    rw [if_pos (List.contains_iff_mem.mpr hmark), distinctBy_eq_keepFirst,
      bySignature_lookups, Signature.flatMap_filter_nonEmpty hempty]
  · -- the shortcut merges nothing, and nothing is there twice
    rw [Lookups.byType_eq_bySignature _ hmark, bySignature_lookups, Signature.branches_eq_singleton hmark,
      List.flatMap_singleton, keepFirst_eq_self (nodup_bySignature log s)]

/-- **A union of types names what its alternatives name.** In the index of any log, the declarations
of two signatures joined by `|` are those of the first and then those of the second, identical ones
once; the same for any number of them. A signature without `|`, which is looked up as it is, names
what it names with a `|` before or behind it, where the alternatives are merged; and one more
declaration is merged into a list in the same way. -/
theorem union_names_what_its_branches_name (log : List Entry) :
    (∀ s t, (ofEntries log).lookups.byType (s ++ "|" ++ t)
      = keepFirst Declaration.identity ((ofEntries log).lookups.byType s ++ (ofEntries log).lookups.byType t))
    ∧ (∀ parts, (ofEntries log).lookups.byType (Signature.union parts)
      = keepFirst Declaration.identity (parts.flatMap (ofEntries log).lookups.byType))
    ∧ (∀ s, Signature.unionMark ∉ s.toList →
      (ofEntries log).lookups.byType s = (ofEntries log).bySignature s
        ∧ (ofEntries log).lookups.byType ("|" ++ s) = (ofEntries log).bySignature s
        ∧ (ofEntries log).lookups.byType (s ++ "|") = (ofEntries log).bySignature s)
    ∧ ∀ ds x, Declaration.merge ds x = keepFirst Declaration.identity (ds ++ [x]) := by
  have htypes := branchwise_byType log
  refine ⟨htypes.answer_append, htypes.answer_union, ?_, ?_⟩
  · intro s hfree
    have hdirect := Lookups.byType_eq_bySignature (ofEntries log) hfree
    have hkept : keepFirst Declaration.identity ((ofEntries log).lookups.byType s)
        = (ofEntries log).bySignature s := by
      rw [keepFirst_eq_self (htypes.nodup s), hdirect, bySignature_lookups]
    refine ⟨hdirect, ?_, ?_⟩
    · have hleading := htypes.answer_append "" s
      rwa [String.empty_append, htypes.answer_empty, List.nil_append, hkept] at hleading
    · have htrailing := htypes.answer_append s ""
      rwa [String.append_empty, htypes.answer_empty, List.append_nil, hkept] at htrailing
  · intro ds x
    unfold Declaration.merge Declaration.distinct
    rw [distinctBy_eq_keepFirst]

/-- A class that was told twice, from one file whose path is spelled in two ways, and once more from
another file: two declarations, looked up as they are or merged. -/
theorem union_names_what_its_branches_name_class :
    let told := fun path => Entry.classInfo ⟨"\\App\\Clock", ⟨⟨path⟩, none⟩, none, none⟩
    let named := fun path => Declaration.classDef "App\\Clock" ⟨⟨path⟩, none⟩
    let i : Lookups := ofEntries [told "src/Clock.php", told "src//Clock.php", told "old/Clock.php"]
    i.byType "#C\\App\\Clock" = [named "src/Clock.php", named "old/Clock.php"]
      ∧ i.byType "#C\\App\\Clock|" = [named "src/Clock.php", named "old/Clock.php"] := by
  intro told named i
  have hfound : i.bySignature "#C\\App\\Clock" = [named "src/Clock.php", named "old/Clock.php"] := by
    decide +kernel
  obtain ⟨hdirect, -, htrailing⟩ := (union_names_what_its_branches_name
    [told "src/Clock.php", told "src//Clock.php", told "old/Clock.php"]).2.2.1 "#C\\App\\Clock"
    (by decide)
  exact ⟨hdirect.trans hfound, htrailing.trans hfound⟩

end Index

end Signpost
