/-
`Proofs/ClassPath.lean` -- class paths and the signatures of members.

A class path is a non-empty list of identifiers with the namespace separator between them, and a
member is named by one more identifier. Both are types of their own here, so that what is proved of
them needs no side condition. A class path is its own normal form, which makes the signature of a
member a plain concatenation; and since identifiers hold letters, digits and underscores only, that
concatenation has exactly one `.`, no `|`, and no character that can be a delimiter other than `.`.
-/
import Signpost.Declaration
import Signpost.Signature
import Signpost.Proofs.Text

set_option autoImplicit false

namespace Signpost

/-- Whether a character can stand in an identifier. -/
def Text.isWord (c : Char) : Bool := isAlphanumeric c || c == '_'

/-- A name of letters, digits and underscores. -/
structure Identifier where
  text : String
  text_ne : text ≠ ""
  word : text.toList.all Text.isWord = true

/-- A class path: the namespaces from the outermost on, and the class. -/
structure ClassPath where
  parts : List Identifier
  parts_ne : parts ≠ []

/-- A class path as it is written, without a separator in front. -/
def ClassPath.text (path : ClassPath) : String :=
  Text.join ClassName.separator (path.parts.map Identifier.text)

/-! ## Blanks and marks are not part of words -/

/-- A code point that a table contains lies in one of its ranges. -/
theorem Text.Ranges.exists_of_contains {ranges : Text.Ranges} {n : Nat}
    (h : ranges.contains n = true) : ∃ r ∈ ranges, r.1 ≤ n ∧ n ≤ r.2 := by
  induction ranges with
  | nil => exact absurd h (by simp [Text.Ranges.contains])
  | cons r ranges ih =>
    rw [Text.Ranges.contains] at h
    by_cases hlo : n < r.1
    · rw [if_pos hlo] at h
      exact absurd h (by decide)
    · by_cases hhi : n ≤ r.2
      · exact ⟨r, List.mem_cons_self, by omega, hhi⟩
      · rw [if_neg hlo, if_neg hhi] at h
        obtain ⟨r', hr', hn⟩ := ih h
        exact ⟨r', List.mem_cons_of_mem _ hr', hn⟩

/-- The two tables compared, one blank code point at a time. -/
theorem Text.alphanumericRanges_contains_blank :
    ∀ r ∈ Text.blankRanges, ∀ k < r.2 + 1 - r.1,
      Text.alphanumericRanges.contains (r.1 + k) = false := by
  decide +kernel

/-- What can stand in an identifier is not blank: the tables of letters, digits and blanks do not
meet. -/
theorem Text.isBlank_of_isWord {c : Char} (hc : Text.isWord c = true) : Text.isBlank c = false := by
  rw [Bool.eq_false_iff]
  intro hblank
  obtain ⟨r, hr, hlo, hhi⟩ := Text.Ranges.exists_of_contains hblank
  have halnum := Text.alphanumericRanges_contains_blank r hr (c.toNat - r.1) (by omega)
  rw [Nat.add_sub_cancel' hlo] at halnum
  rw [Text.isWord, Text.isAlphanumeric, halnum, Bool.false_or, beq_iff_eq] at hc
  rw [hc] at hblank
  exact absurd hblank (by decide)

/-- A character with an explicit position in the tables that is no word character. -/
theorem Text.ne_of_isWord {c x : Char} (hc : Text.isWord c = true) (hx : Text.isWord x = false) :
    c ≠ x := by
  rintro rfl
  rw [hc] at hx
  exact absurd hx (by decide)

namespace Identifier

variable (name : Identifier)

/-- An identifier holds nothing but letters, digits and underscores. -/
theorem isWord_of_mem {c : Char} (hc : c ∈ name.text.toList) : Text.isWord c = true :=
  List.all_eq_true.mp name.word c hc

/-- So it holds no other character. -/
theorem notMem_text {c : Char} (hc : Text.isWord c = false) : c ∉ name.text.toList :=
  fun h => Text.ne_of_isWord (name.isWord_of_mem h) hc rfl

theorem toList_ne_nil : name.text.toList ≠ [] := by
  intro h
  exact name.text_ne (String.toList_inj.mp h)

/-- The name of a field is written without `$` already. -/
theorem dropLeading_text {mark : Char} (hmark : Text.isWord mark = false) :
    Text.dropLeading mark name.text = name.text := by
  rw [← String.toList_inj, Text.toList_dropLeading]
  cases h : name.text.toList with
  | nil => rfl
  | cons c cs =>
    have hc : c ≠ mark := by
      rintro rfl
      exact name.notMem_text hmark (h ▸ List.mem_cons_self)
    rw [List.dropWhile_cons_of_neg (by simpa using hc)]

end Identifier

namespace ClassPath

variable (path : ClassPath)

/-- A class path holds separators and word characters. -/
theorem mem_text {c : Char} (h : c ∈ path.text.toList) :
    c = ClassName.separator ∨ Text.isWord c = true := by
  rw [text, Text.toList_join] at h
  generalize path.parts = parts at h
  induction parts with
  | nil => exact absurd h (by simp)
  | cons part parts ih =>
    cases parts with
    | nil =>
      rw [List.map_singleton, List.map_singleton, List.intercalate_singleton] at h
      exact Or.inr (part.isWord_of_mem h)
    | cons next parts =>
      rw [List.map_cons, List.map_cons, List.map_cons, List.map_cons, List.intercalate_cons_cons,
        List.append_assoc, List.mem_append, List.singleton_append, List.mem_cons] at h
      rcases h with h | h | h
      · exact Or.inr (part.isWord_of_mem h)
      · exact Or.inl h
      · exact ih h

/-- A class path holds, besides the separator, no character that an identifier could not hold. -/
theorem notMem_text {c : Char} (hword : Text.isWord c = false) (hsep : c ≠ ClassName.separator) :
    c ∉ path.text.toList := by
  intro h
  rcases path.mem_text h with h | h
  · exact hsep h
  · exact Text.ne_of_isWord h hword rfl

/-- A class path starts inside its first identifier. -/
theorem exists_text_eq : ∃ c cs, path.text.toList = c :: cs ∧ Text.isWord c = true := by
  obtain ⟨parts, hne⟩ := path
  rw [text, Text.toList_join]
  cases parts with
  | nil => exact absurd rfl hne
  | cons part parts =>
    obtain ⟨c, cs, hcs⟩ := List.exists_cons_of_ne_nil part.toList_ne_nil
    have hc : Text.isWord c = true := part.isWord_of_mem (hcs ▸ List.mem_cons_self)
    cases parts with
    | nil => exact ⟨c, cs, by simpa using hcs, hc⟩
    | cons next parts =>
      refine ⟨c, cs ++ ([ClassName.separator] ++ [ClassName.separator].intercalate
        (((next :: parts).map Identifier.text).map String.toList)), ?_, hc⟩
      rw [List.map_cons, List.map_cons, hcs, List.map_cons, List.map_cons,
        List.intercalate_cons_cons, List.append_assoc, List.cons_append]

/-- A class path has no blanks to lose. -/
theorem trim_text : Text.trim path.text = path.text := by
  have hblank : ∀ c ∈ path.text.toList, Text.isBlank c = false := by
    intro c hc
    rcases path.mem_text hc with rfl | hc
    · decide
    · exact Text.isBlank_of_isWord hc
  rw [← String.toList_inj, Text.toList_trim, Text.trimChars_eq_self hblank]

/-- A class path is its own normal form. -/
theorem normalize_text : ClassName.normalize path.text = path.text := by
  rw [ClassName.normalize, trim_text, ← String.toList_inj, Text.toList_dropLeading]
  obtain ⟨c, cs, htext, hc⟩ := path.exists_text_eq
  have hsep : c ≠ ClassName.separator := Text.ne_of_isWord hc (by decide)
  rw [htext, List.dropWhile_cons_of_neg (by simpa using hsep)]

end ClassPath

/-! ## Signatures of members -/

/-- The signature of a member: the letter of its kind, the class and the name. -/
def memberSignature (kind : Char) (path : ClassPath) (name : Identifier) : String :=
  String.singleton Signature.deferredMark ++ String.singleton kind ++ "#C\\" ++ path.text ++ "."
    ++ name.text

section MemberSignature

variable (path : ClassPath) (name : Identifier)

/-- The signature of a method is put together from the path and the name as they stand. -/
theorem methodSignature_text :
    Declaration.methodSignature path.text name.text = memberSignature 'M' path name := by
  rw [Declaration.methodSignature, path.normalize_text]
  rfl

/-- So is that of a field. -/
theorem fieldSignature_text :
    Declaration.fieldSignature path.text name.text = memberSignature 'P' path name := by
  rw [Declaration.fieldSignature, path.normalize_text, name.dropLeading_text (by decide)]
  rfl

/-- So is that of a constant. -/
theorem constantSignature_text :
    Declaration.constantSignature path.text name.text = memberSignature 'K' path name := by
  rw [Declaration.constantSignature, path.normalize_text]
  rfl

/-- The signature of a member: its mark, the path, a dot and the name. -/
theorem toList_memberSignature (kind : Char) :
    (memberSignature kind path name).toList
      = ['#', kind, '#', 'C', '\\'] ++ path.text.toList ++ '.' :: name.text.toList := by
  simp [memberSignature, Signature.deferredMark]

end MemberSignature

/-- The letters of the kinds of members: methods, fields and constants. -/
def memberKinds : List Char := ['M', 'P', 'K']

/-- There are three kinds of members with a signature. -/
theorem eq_of_mem_memberKinds {kind : Char} (h : kind ∈ memberKinds) :
    kind = 'M' ∨ kind = 'P' ∨ kind = 'K' := by
  simpa [memberKinds] using h

/-- The signatures of the members of that name in a class, whatever their kind. -/
def memberSignatures (path : ClassPath) (name : Identifier) : List String :=
  [Declaration.methodSignature path.text name.text, Declaration.fieldSignature path.text name.text,
    Declaration.constantSignature path.text name.text]

/-- The signatures that a member could have differ in the letter of its kind. -/
theorem memberSignatures_eq (path : ClassPath) (name : Identifier) :
    memberSignatures path name = memberKinds.map (memberSignature · path name) := by
  rw [memberSignatures, methodSignature_text, fieldSignature_text, constantSignature_text]
  rfl

end Signpost
