/-
`Proofs/Signature/Deferred.lean` -- what deferred references stand for.

A reference to a member is answered in one of two ways: from its own text, if that is a reference to
the constant `class`, or from the index. Which way it takes, and which declarations it finds there,
is settled by one fact about the text of its signature: there is one `.` in it, so it can be put
together in one way only (`memberText_eq_iff`). Hence neither of the two ends by which the constant
`class` is known can be the end of another member's signature; and whatever else has the signature
of a member, from whichever file, declares a member of that kind, class and name.

The index answers with the first such declaration, and with the last literal that was given for it.
The two are kept in different tables and under different keys, the signature in one and the whole
identity in the other; `toldLiteral` is the answer as a function of the log.

Specification: 4.2, 8 and B.9.
-/
import Signpost.Proofs.Container.Reference

set_option autoImplicit false

namespace Signpost

/-! ## Members and their signatures -/

namespace Declaration

/-- What a member of a class is known by. -/
structure Member where
  kind : Kind
  owner : String
  name : String
  deriving DecidableEq, Repr

/-- The member that a declaration declares. Classes are compared by their names in normal form, and
fields by their names without the `$`. -/
def member? : Declaration → Option Member
  | .method owner name _ => some ⟨.method, ClassName.normalize owner, name⟩
  | .field owner name _ => some ⟨.field, ClassName.normalize owner, Text.dropLeading '$' name⟩
  | .constant owner name _ => some ⟨.constant, ClassName.normalize owner, name⟩
  | _ => none

end Declaration

/-- The kinds of members and their letters. -/
def memberLetters : List (Declaration.Kind × Char) :=
  [(.method, 'M'), (.field, 'P'), (.constant, 'K')]

/-- A text in the form of a member signature. -/
def memberText (letter : Char) (owner last : String) : String :=
  String.singleton Signature.deferredMark ++ String.singleton letter ++ "#C\\" ++ owner ++ "." ++ last

theorem toList_memberText (letter : Char) (owner last : String) :
    (memberText letter owner last).toList
      = ['#', letter, '#', 'C'] ++ ('\\' :: owner.toList ++ '.' :: last.toList) := by
  simp [memberText, Signature.deferredMark]

theorem memberSignature_eq (letter : Char) (path : ClassPath) (name : Identifier) :
    memberSignature letter path name = memberText letter path.text name.text := rfl

/-- **The signature of a member is put together in one way only**, since there is one `.` in it. -/
theorem memberText_eq_iff (path : ClassPath) (name : Identifier) {letter other : Char}
    {owner last : String} :
    memberText other owner last = memberSignature letter path name
      ↔ other = letter ∧ owner = path.text ∧ last = name.text := by
  have hpath : '.' ∉ path.text.toList := path.notMem_text (by decide) (by decide)
  have hname : '.' ∉ name.text.toList := name.notMem_text (by decide)
  have hcut : owner.toList ++ '.' :: last.toList = path.text.toList ++ '.' :: name.text.toList
      ↔ owner = path.text ∧ last = name.text := by
    rw [eq_comm, List.append_cons_inj_of_notMem hpath hname, String.toList_inj, String.toList_inj]
    simp only [true_and, eq_comm]
  rw [memberSignature_eq, ← String.toList_inj, toList_memberText, toList_memberText]
  simp only [List.cons_append, List.nil_append, List.cons.injEq, true_and, hcut]

namespace Declaration

theorem signature?_of_member? {x : Declaration} {m : Member} {letter : Char}
    (hm : x.member? = some m) (hletter : (m.kind, letter) ∈ memberLetters) :
    x.signature? = some (memberText letter m.owner m.name) := by
  cases x <;> cases hm <;>
    simp only [memberLetters, List.mem_cons, Prod.mk.injEq, reduceCtorEq, false_and, true_and,
      false_or, or_false, List.not_mem_nil] at hletter <;> subst hletter <;> rfl

/-- What has the signature of a member declares one: the signatures of classes have another letter. -/
theorem exists_member?_of_signature? {x : Declaration} {letter : Char} {path : ClassPath}
    {name : Identifier} (hkind : letter ∈ memberKinds)
    (h : x.signature? = some (memberSignature letter path name)) :
    ∃ m other, x.member? = some m ∧ (m.kind, other) ∈ memberLetters := by
  cases x with
  | classDef className _ =>
    have hmark : (memberSignature letter path name).toList[1]? = some letter := by
      rw [toList_memberSignature]
      rfl
    rw [← Option.some.inj h] at hmark
    rcases eq_of_mem_memberKinds hkind with rfl | rfl | rfl <;> simp [classSignature] at hmark
  | method => exact ⟨_, 'M', rfl, by simp [memberLetters]⟩
  | field => exact ⟨_, 'P', rfl, by simp [memberLetters]⟩
  | constant => exact ⟨_, 'K', rfl, by simp [memberLetters]⟩
  | templateBlock => cases h
  | templateFile => cases h
  | translationEntry => cases h
  | translationDomain => cases h
  | parameter => cases h

/-- **Declarations share the signature of a member just when they declare that member.** -/
theorem signature?_eq_memberSignature_iff {x : Declaration} {kind : Kind} {letter : Char}
    (hletter : (kind, letter) ∈ memberLetters) (path : ClassPath) (name : Identifier) :
    x.signature? = some (memberSignature letter path name)
      ↔ x.member? = some ⟨kind, path.text, name.text⟩ := by
  constructor
  · intro h
    have hkind : letter ∈ memberKinds := List.mem_map_of_mem (f := Prod.snd) hletter
    obtain ⟨m, other, hm, hother⟩ := exists_member?_of_signature? hkind h
    have hsame := (signature?_of_member? hm hother).symm.trans h
    obtain ⟨rfl, howner, hname⟩ := (memberText_eq_iff path name).mp (Option.some.inj hsame)
    -- no two kinds have the same letter
    have hunique : ∀ p ∈ memberLetters, ∀ q ∈ memberLetters, p.2 = q.2 → p.1 = q.1 := by decide
    have hsamekind : m.kind = kind := hunique _ hother _ hletter rfl
    rw [hm, ← howner, ← hname, ← hsamekind]
  · intro hm
    have hsignature := signature?_of_member? hm hletter
    rw [hsignature, memberSignature_eq]

theorem literalKey?_eq_some_iff {x d : Declaration} (h : d.signature?.isSome = true) :
    x.literalKey? = some d.identity ↔ x.identity = d.identity := by
  rw [literalKey?, Option.map_eq_some_iff]
  constructor
  · rintro ⟨_, -, hsame⟩
    exact hsame
  · intro hsame
    -- identical declarations are of one kind, and the kind decides whether there is a signature
    have hkind : x.kind = d.kind := congrArg Identity.kind hsame
    have hsome : x.signature?.isSome = true := by
      cases d <;> cases h <;> cases x <;> first | rfl | cases hkind
    obtain ⟨signature, hsignature⟩ := Option.isSome_iff_exists.mp hsome
    exact ⟨signature, hsignature, hsame⟩

end Declaration

/-! ## The constant `class` -/

namespace Lookups

/-- **References to the constant `class`, characterised** by their start and their end. -/
theorem classConstant?_eq_some_iff {s path : String} :
    classConstant? s = some path ↔ s = "#K#C" ++ path ++ ".class" ∨ s = "#K#C" ++ path ++ "." := by
  constructor
  · intro h
    obtain ⟨stop, hstop, htext⟩ := classConstant?_eq_some h
    simp only [List.mem_cons, List.not_mem_nil, or_false] at hstop
    rcases hstop with rfl | rfl
    · exact .inl htext
    · exact .inr htext
  · have hafter : ∀ stop : String,
        Text.after? "#K#C" ("#K#C" ++ path ++ stop) = some (path ++ stop) := fun stop =>
      Text.after?_eq_some_iff.mpr (String.append_assoc ..)
    rintro (rfl | rfl)
    · rw [classConstant?, hafter, Option.bind_some, Text.before?_eq_some_iff.mpr rfl]
      rfl
    · -- the longer end is tried first, and a text that ends in `.` does not end in it
      have hnone : Text.before? ".class" (path ++ ".") = none := by
        rw [Option.eq_none_iff_forall_ne_some]
        intro rest hrest
        have hlast := congrArg (fun s => s.toList.getLast?) (Text.before?_eq_some_iff.mp hrest)
        simp at hlast
      rw [classConstant?, hafter, Option.bind_some, hnone, Text.before?_eq_some_iff.mpr rfl]
      rfl

/-- Neither end is that of another member. -/
theorem classConstant?_memberSignature {letter : Char} {path : ClassPath} {name : Identifier}
    (h : letter = 'K' → name.text ≠ "class") :
    classConstant? (memberSignature letter path name) = none := by
  rw [Option.eq_none_iff_forall_ne_some]
  intro found hfound
  have hpath : '.' ∉ '\\' :: path.text.toList := by
    rw [List.mem_cons, not_or]
    exact ⟨by decide, path.notMem_text (by decide) (by decide)⟩
  have hname : '.' ∉ name.text.toList := name.notMem_text (by decide)
  -- up to the `.` the two texts agree, so behind it they do as well
  have hends : ∀ last : String, memberSignature letter path name = "#K#C" ++ found ++ "." ++ last →
      letter = 'K' ∧ name.text = last := by
    intro last htext
    have hchars : '#' :: letter :: '#' :: 'C' :: ('\\' :: path.text.toList ++ '.' :: name.text.toList)
        = '#' :: 'K' :: '#' :: 'C' :: (found.toList ++ '.' :: last.toList) := by
      rw [memberSignature_eq, ← String.toList_inj, toList_memberText] at htext
      simpa using htext
    simp only [List.cons.injEq, true_and, List.append_cons_inj_of_notMem hpath hname,
      String.toList_inj] at hchars
    exact ⟨hchars.1, hchars.2.2⟩
  rcases classConstant?_eq_some_iff.mp hfound with htext | htext
  · obtain ⟨hletter, hclass⟩ := hends "class" (htext.trans (by simp [String.append_assoc]))
    exact h hletter hclass
  · obtain ⟨-, hempty⟩ := hends "" (htext.trans (by simp))
    exact name.text_ne hempty

/-- What is no reference stands for itself. -/
theorem literal_of_not_deferred (i : Lookups) {s : String} (h : Signature.isDeferred s = false) :
    i.literal s = .ok s := by
  have hsome := i.literal?_of_not_deferred h
  rw [literal?] at hsome
  cases hanswer : i.literal s with
  | error miss =>
    rw [hanswer] at hsome
    cases hsome
  | ok value =>
    rw [hanswer] at hsome
    rw [Option.some.inj hsome]

end Lookups

/-! ## What a log says -/

namespace Index

open Lookups (classConstant? classConstant?_memberSignature classConstant?_eq_some_iff)

/-- The first declaration of a member that a log tells. -/
def firstTold? (log : List Entry) (m : Declaration.Member) : Option Declaration :=
  (log.filterMap Entry.declaration?).find? fun d => d.member? = some m

/-- The last literal that a log gives for a declaration, or for one identical to it. -/
def lastLiteral? (log : List Entry) (d : Declaration) : Option String :=
  ((log.filterMap Entry.literal?).filter fun p => p.1.identity = d.identity).getLast?.map Prod.snd

/-- What a log says a reference to a member stands for. -/
def toldLiteral (log : List Entry) (m : Declaration.Member) (signature : String) :
    Except Miss String :=
  match firstTold? log m with
  | none => .error (.notFound signature)
  | some d =>
    match lastLiteral? log d with
    | none => .error (.nonLiteral signature)
    | some value => .ok value

section Member

variable {kind : Declaration.Kind} {letter : Char} (hletter : (kind, letter) ∈ memberLetters)
  (log : List Entry) (path : ClassPath) (name : Identifier)

include hletter

theorem head?_bySignature_memberSignature :
    ((ofEntries log).bySignature (memberSignature letter path name)).head?
      = firstTold? log ⟨kind, path.text, name.text⟩ := by
  rw [bySignature_ofEntries, head?_keepFirst, List.head?_filter, firstTold?]
  congr 1
  funext d
  rw [decide_eq_decide]
  exact Declaration.signature?_eq_memberSignature_iff hletter path name

omit hletter in
theorem literalOf?_of_firstTold? {m : Declaration.Member} {d : Declaration}
    (hd : firstTold? log m = some d) : (ofEntries log).literalOf? d = lastLiteral? log d := by
  have hmember : d.member? = some m := by
    rw [firstTold?] at hd
    simpa using List.find?_some hd
  have hsome : d.signature?.isSome = true := by
    cases d <;> cases hmember <;> rfl
  rw [literalOf?_ofEntries, lastLiteral?]
  simp only [Declaration.literalKey?_eq_some_iff hsome]

/-- **A member is looked up as the log says**, unless it is the constant `class`. -/
theorem literal_memberSignature (hname : letter = 'K' → name.text ≠ "class") :
    (ofEntries log).lookups.literal (memberSignature letter path name)
      = toldLiteral log ⟨kind, path.text, name.text⟩ (memberSignature letter path name) := by
  have hdeferred : Signature.isDeferred (memberSignature letter path name) = true := by
    rw [Signature.isDeferred, Text.startsWith_eq_true_iff, toList_memberSignature]
    exact ⟨_, rfl⟩
  -- only the head of what stands under the signature is asked for
  have hfirst := head?_bySignature_memberSignature hletter log path name
  rw [Lookups.literal, classConstant?_memberSignature hname, hdeferred, if_pos rfl, toldLiteral, ← hfirst,
    bySignature_lookups, literalOf?_lookups]
  cases hfound : (ofEntries log).bySignature (memberSignature letter path name) with
  | nil => rfl
  | cons d rest =>
    rw [hfound, List.head?_cons] at hfirst
    simp only [List.head?_cons, literalOf?_of_firstTold? log hfirst.symm]
    cases lastLiteral? log d <;> rfl

end Member

/-- **Deferred references follow the log.** The constant `class` of a class path, under its name or
under the empty name that older indexers wrote, stands for the path from the root, whatever answers
the look-ups. Any other constant, and any field, is looked up: the first declaration of that member decides,
and the last literal given for it. What is no reference stands for itself. -/
theorem deferred_literal_follows_log (log : List Entry) (written : WrittenPath) :
    (∀ i : Lookups, ∀ name ∈ ["class", ""],
      i.literal (Declaration.constantSignature written.text name)
        = .ok ("\\" ++ ClassName.normalize written.text))
    ∧ (∀ name : Identifier, name.text ≠ "class" →
      let signature := Declaration.constantSignature written.text name.text
      classConstant? signature = none
        ∧ (ofEntries log).lookups.literal signature
          = toldLiteral log ⟨.constant, ClassName.normalize written.text, name.text⟩ signature)
    ∧ (∀ (name : Identifier) (spelled : String), Text.dropLeading '$' spelled = name.text →
      let signature := Declaration.fieldSignature written.text spelled
      classConstant? signature = none
        ∧ (ofEntries log).lookups.literal signature
          = toldLiteral log ⟨.field, ClassName.normalize written.text, name.text⟩ signature)
    ∧ ∀ (i : Lookups) (s : String), Signature.isDeferred s = false → i.literal s = .ok s := by
  rw [written.normalize_text]
  refine ⟨?_, ?_, ?_, fun i s => i.literal_of_not_deferred⟩
  · intro i name hname
    have hclass : classConstant? (Declaration.constantSignature written.text name)
        = some ("\\" ++ written.path.text) := by
      rw [classConstant?_eq_some_iff, Declaration.constantSignature, written.normalize_text]
      simp only [List.mem_cons, List.not_mem_nil, or_false] at hname
      rcases hname with rfl | rfl
      · exact .inl (String.toList_inj.mp (by simp))
      · exact .inr (String.toList_inj.mp (by simp))
    rw [Lookups.literal, hclass]
  · intro name hname
    rw [constantSignature_written]
    exact ⟨classConstant?_memberSignature fun _ => hname,
      literal_memberSignature (by decide) log written.path name fun _ => hname⟩
  · intro name spelled hspelled
    have hother : 'P' = 'K' → name.text ≠ "class" := fun h => absurd h (by decide)
    have hsignature : Declaration.fieldSignature written.text spelled
        = memberSignature 'P' written.path name := by
      rw [Declaration.fieldSignature, written.normalize_text, hspelled]
      rfl
    rw [hsignature]
    exact ⟨classConstant?_memberSignature hother,
      literal_memberSignature (by decide) log written.path name hother⟩

/-- Two files declare a constant, and then the first one again, its path spelled otherwise and with
another literal: that literal counts. The field next to it is declared without a literal. -/
theorem deferred_literal_follows_log_repeated :
    let ids : ClassPath := ⟨[⟨"App", by decide, by decide⟩, ⟨"Ids", by decide, by decide⟩], by decide⟩
    let first : Declaration := .constant "\\App\\Ids" "MAILER" ⟨⟨"src/Ids.php"⟩, none⟩
    let second : Declaration := .constant "App\\Ids" "MAILER" ⟨⟨"old/Ids.php"⟩, none⟩
    let again : Declaration := .constant "\\App\\Ids" "MAILER" ⟨⟨"src/./Ids.php"⟩, none⟩
    let field : Declaration := .field "App\\Ids" "$clock" ⟨⟨"src/Ids.php"⟩, none⟩
    let i : Lookups := ofEntries [.element first (some "mailer"), .element second (some "old"),
      .element field none, .element again (some "app.mailer")]
    i.literal (Declaration.constantSignature ids.text "MAILER") = .ok "app.mailer"
      ∧ i.literal (Declaration.fieldSignature ids.text "$clock")
        = .error (.nonLiteral "#P#C\\App\\Ids.clock")
      ∧ i.literal (Declaration.constantSignature ids.text "") = .ok "\\App\\Ids"
      ∧ i.literal "app.clock" = .ok "app.clock" := by
  intro ids first second again field i
  have hlog := deferred_literal_follows_log [.element first (some "mailer"),
    .element second (some "old"), .element field none, .element again (some "app.mailer")]
    ⟨ids, false⟩
  obtain ⟨hclass, hconstant, hfield, hplain⟩ := hlog
  refine ⟨?_, ?_, ?_, hplain i "app.clock" (by decide)⟩
  · refine (hconstant ⟨"MAILER", by decide, by decide⟩ (by decide)).2.trans ?_
    decide +kernel
  · refine (hfield ⟨"clock", by decide, by decide⟩ "$clock" (by decide)).2.trans ?_
    decide +kernel
  · refine (hclass i "" (by simp)).trans ?_
    decide +kernel

end Index

end Signpost
