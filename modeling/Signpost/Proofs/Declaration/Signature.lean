/-
`Proofs/Declaration/Signature.lean` -- signatures tell elements apart.

Classes, methods, fields and constants are found by their signatures, all of them in one table, and
nothing but the text keeps them apart. The text has three parts: a start that depends on the kind
alone, the class in normal form, and for a member a `.` and its name. The start of a class stands
inside the three others, but no start begins another one, so the kind can be read off any signature
(`kind_eq_of_signature?`). The class ends at the first `.`. So class and name can be read off as
well where class names are free of it, whatever the names of members hold.

Specification: B.6, item 3.
-/
import Signpost.Declaration
import Signpost.Proofs.Text

set_option autoImplicit false

namespace Signpost

/-- The normal form only takes characters away. -/
theorem ClassName.normalize_sublist (name : String) :
    (ClassName.normalize name).toList.Sublist name.toList := by
  rw [ClassName.normalize, Text.toList_dropLeading, Text.toList_trim]
  exact (List.dropWhile_sublist _).trans (Text.trimChars_sublist _)

namespace Declaration

/-! ## The parts of a signature -/

/-- What the signatures of each kind start with. -/
def elementStarts : List (Kind × String) :=
  [(.classDef, "#C\\"), (.method, "#M#C\\"), (.field, "#P#C\\"), (.constant, "#K#C\\")]

/-- The class that a class-level declaration declares or belongs to, as it is written. -/
def owner? : Declaration → Option String
  | .classDef name _ => some name
  | .method owner _ _ => some owner
  | .field owner _ _ => some owner
  | .constant owner _ _ => some owner
  | _ => none

/-- The name of a member in its class; a field is named without its `$`. -/
def memberName? : Declaration → Option String
  | .method _ name _ => some name
  | .field _ name _ => some (Text.dropLeading '$' name)
  | .constant _ name _ => some name
  | _ => none

/-- What follows the class in a signature. -/
def tailChars : Option String → List Char
  | none => []
  | some name => '.' :: name.toList

theorem exists_signature?_of_owner? {x : Declaration} {owner : String} (h : x.owner? = some owner) :
    ∃ s, x.signature? = some s := by
  cases x <;> cases h <;> exact ⟨_, rfl⟩

/-- **A signature is a start, a class and a tail.** -/
theorem exists_start_of_signature? {x : Declaration} {s : String} (h : x.signature? = some s) :
    ∃ start owner, (x.kind, start) ∈ elementStarts ∧ x.owner? = some owner
      ∧ s.toList
        = start.toList ++ ((ClassName.normalize owner).toList ++ tailChars x.memberName?) := by
  cases x with
  | classDef name _ =>
    obtain rfl := Option.some.inj h
    exact ⟨"#C\\", name, by simp [elementStarts, kind], rfl,
      by simp [classSignature, memberName?, tailChars]⟩
  | method owner name _ =>
    obtain rfl := Option.some.inj h
    exact ⟨"#M#C\\", owner, by simp [elementStarts, kind], rfl,
      by simp [methodSignature, memberName?, tailChars]⟩
  | field owner name _ =>
    obtain rfl := Option.some.inj h
    exact ⟨"#P#C\\", owner, by simp [elementStarts, kind], rfl,
      by simp [fieldSignature, memberName?, tailChars]⟩
  | constant owner name _ =>
    obtain rfl := Option.some.inj h
    exact ⟨"#K#C\\", owner, by simp [elementStarts, kind], rfl,
      by simp [constantSignature, memberName?, tailChars]⟩
  | templateBlock => cases h
  | templateFile => cases h
  | translationEntry => cases h
  | translationDomain => cases h
  | parameter => cases h

/-! ## Reading the parts off -/

/-- Each kind has one start, and no start begins another one. -/
theorem elementStarts_apart : ∀ p ∈ elementStarts, ∀ q ∈ elementStarts,
    p.1 = q.1 ∨ p.2.toList <+: q.2.toList → p = q := by
  decide

theorem start_append_inj {p q : Kind × String} (hp : p ∈ elementStarts) (hq : q ∈ elementStarts)
    {xs ys : List Char} (h : p.2.toList ++ xs = q.2.toList ++ ys) : p = q ∧ xs = ys := by
  have hleft : p.2.toList <+: q.2.toList ++ ys := h ▸ List.prefix_append _ xs
  have hsame : p = q := by
    rcases List.prefix_or_prefix_of_prefix hleft (List.prefix_append _ ys) with hpq | hqp
    · exact elementStarts_apart p hp q hq (.inr hpq)
    · exact (elementStarts_apart q hq p hp (.inr hqp)).symm
  rw [hsame] at h
  exact ⟨hsame, List.append_cancel_left h⟩

/-- **Declarations with one signature are of one kind**, whatever they are named. -/
theorem kind_eq_of_signature? {x y : Declaration} {s : String} (hx : x.signature? = some s)
    (hy : y.signature? = some s) : x.kind = y.kind := by
  obtain ⟨start, owner, hstart, -, htext⟩ := exists_start_of_signature? hx
  obtain ⟨start', owner', hstart', -, htext'⟩ := exists_start_of_signature? hy
  exact congrArg Prod.fst (start_append_inj hstart hstart' (htext.symm.trans htext')).1

/-- The first `.` is where the class ends. -/
theorem append_tailChars_inj {left right : List Char} (hleft : '.' ∉ left) (hright : '.' ∉ right)
    {m n : Option String} :
    left ++ tailChars m = right ++ tailChars n ↔ left = right ∧ m = n := by
  constructor
  · intro h
    cases m with
    | none =>
      cases n with
      | none => simpa [tailChars] using h
      | some name =>
        rw [tailChars, tailChars, List.append_nil] at h
        exact absurd (h ▸ List.mem_append_right right List.mem_cons_self) hleft
    | some name =>
      cases n with
      | none =>
        rw [tailChars, tailChars, List.append_nil] at h
        exact absurd (h ▸ List.mem_append_right left List.mem_cons_self) hright
      | some other =>
        have hcut := congrArg (Text.cutChars? '.') h
        rw [tailChars, tailChars, Text.cutChars?_append hleft, Text.cutChars?_append hright] at hcut
        obtain ⟨hclass, hname⟩ := Prod.mk.inj (Option.some.inj hcut)
        exact ⟨hclass, congrArg some (String.toList_inj.mp hname)⟩
  · rintro ⟨rfl, rfl⟩
    rfl

/-- **Signatures are unique.** Two class-level declarations whose class names are free of `.` have
one signature exactly if they are of one kind, their classes have one normal form, and their names,
for fields without the `$` in front, are the same. Declarations of the other five kinds, and no
others, have no signature. -/
theorem element_signatures_are_unique :
    (∀ (a b : Declaration) (classA classB : String),
      a.owner? = some classA → b.owner? = some classB →
      '.' ∉ classA.toList → '.' ∉ classB.toList →
      (a.signature? = b.signature? ↔
        a.kind = b.kind ∧ ClassName.normalize classA = ClassName.normalize classB
          ∧ a.memberName? = b.memberName?))
    ∧ ∀ d : Declaration, d.signature? = none ↔
      d.kind ∈ [.templateBlock, .templateFile, .translationEntry, .translationDomain,
        .parameter] := by
  refine ⟨?_, ?_⟩
  · intro a b classA classB hownerA hownerB hfreeA hfreeB
    obtain ⟨s, hs⟩ := exists_signature?_of_owner? hownerA
    obtain ⟨r, hr⟩ := exists_signature?_of_owner? hownerB
    obtain ⟨startA, _, hstartA, hsameA, htextA⟩ := exists_start_of_signature? hs
    obtain ⟨startB, _, hstartB, hsameB, htextB⟩ := exists_start_of_signature? hr
    obtain rfl := Option.some.inj (hownerA.symm.trans hsameA)
    obtain rfl := Option.some.inj (hownerB.symm.trans hsameB)
    have hnormalA : '.' ∉ (ClassName.normalize classA).toList :=
      fun h => hfreeA ((ClassName.normalize_sublist classA).mem h)
    have hnormalB : '.' ∉ (ClassName.normalize classB).toList :=
      fun h => hfreeB ((ClassName.normalize_sublist classB).mem h)
    rw [hs, hr, Option.some_inj, ← String.toList_inj, htextA, htextB]
    constructor
    · intro h
      obtain ⟨hstart, hrest⟩ := start_append_inj hstartA hstartB h
      obtain ⟨hclass, hname⟩ := (append_tailChars_inj hnormalA hnormalB).mp hrest
      exact ⟨congrArg Prod.fst hstart, String.toList_inj.mp hclass, hname⟩
    · rintro ⟨hkind, hclass, hname⟩
      have hstart : startA = startB :=
        congrArg Prod.snd (elementStarts_apart _ hstartA _ hstartB (.inl hkind))
      rw [hstart, hclass, hname]
  · intro d
    cases d <;> simp [signature?, kind]

/-- A field that is written with a separator, blanks and two `$`, the same field written plainly in
another file, and a constant of that class and name. -/
theorem element_signatures_are_unique_spelled :
    let decorated : Declaration := .field " \\App\\Foo " "$$id.first" ⟨⟨"src/Foo.php"⟩, none⟩
    let plain : Declaration := .field "App\\Foo" "id.first" ⟨⟨"lib/Foo.php"⟩, none⟩
    let other : Declaration := .constant "App\\Foo" "id.first" ⟨⟨"lib/Foo.php"⟩, none⟩
    decorated.signature? = plain.signature? ∧ plain.signature? ≠ other.signature? := by
  intro decorated plain other
  have hdecorated : '.' ∉ " \\App\\Foo ".toList := by decide +kernel
  have hplain : '.' ∉ "App\\Foo".toList := by decide +kernel
  have hsame := element_signatures_are_unique.1 decorated plain _ _ rfl rfl hdecorated hplain
  have hother := element_signatures_are_unique.1 plain other _ _ rfl rfl hplain hplain
  refine ⟨hsame.mpr ⟨rfl, by decide +kernel, by decide +kernel⟩, ?_⟩
  intro h
  exact absurd (hother.mp h).1 (by decide)

-- With a `.` in the name of a class, class and member run together.
example : methodSignature "App.Foo" "id" = methodSignature "App" "Foo.id" := by decide +kernel

end Declaration

end Signpost
