/-
`Proofs/Index/Class.lean` -- classes are found in two ways.

A class that the index was told is found by its name and by its signature. By name nothing can go
wrong: the name is normalised once when the class is entered and once when it is asked for, and a
class of the same key can replace it but not remove it.

By signature the name takes a longer way. The declaration holds the normal form of the name, and its
signature normalises that once more, while the signature of the name as it is written normalises it
once. The two agree when the normal form is its own normal form. Blanks are trimmed before the
separators in front are dropped, so the only thing a second pass can still find is a blank that
stood behind those separators; `normalize_normalize_iff` says so, and the class is found by
signature exactly if there is none.
-/
import Signpost.Proofs.Index.Filed

set_option autoImplicit false

namespace Signpost

/-! ## Normal forms of normal forms -/

namespace Text

/-- The end of a text without blanks at its end has none there either. -/
theorem trimEndChars_eq_self_of_suffix {cs tail : List Char} (h : tail <:+ trimEndChars cs) :
    trimEndChars tail = tail := by
  refine List.rdropWhile_eq_self_iff.mpr fun hne => ?_
  have hwhole : trimEndChars cs ≠ [] := List.ne_nil_of_length_pos
    ((List.length_pos_of_ne_nil hne).trans_le h.length_le)
  rw [h.getLast hne]
  exact List.rdropWhile_last_not _ _ hwhole

/-- Trimming takes a blank at the start away and adds nothing. -/
theorem length_trimChars_cons_lt {c : Char} (hc : isBlank c = true) (cs : List Char) :
    (trimChars (c :: cs)).length < (c :: cs).length := by
  have hstart : trimChars (c :: cs) = trimChars cs := by
    rw [trimChars, trimChars, trimStartChars, List.dropWhile_cons_of_pos hc, trimStartChars]
  rw [hstart, List.length_cons]
  exact Nat.lt_succ_of_le (trimChars_sublist cs).length_le

end Text

namespace ClassName

theorem toList_normalize (name : String) :
    (normalize name).toList = (Text.trimChars name.toList).dropWhile (· == separator) := by
  rw [normalize, Text.toList_dropLeading, Text.toList_trim]

/-- Whether the name has a blank right behind the separators in front. -/
def blankBehindSeparators (name : String) : Bool := (normalize name).toList.head?.any Text.isBlank

/-- **A second normalisation takes off just the blanks behind the separators in front.** -/
theorem normalize_normalize_iff (name : String) :
    normalize (normalize name) = normalize name ↔ blankBehindSeparators name = false := by
  rw [← String.toList_inj, toList_normalize, blankBehindSeparators]
  cases hcs : (normalize name).toList with
  | nil => simp [Text.trimChars, Text.trimStartChars, Text.trimEndChars]
  | cons c cs =>
    rw [List.head?_cons, Option.any_some]
    cases hblank : Text.isBlank c with
    | true =>
      -- the second form is shorter
      refine iff_of_false (fun h => ?_) Bool.noConfusion
      have hshort := Text.length_trimChars_cons_lt hblank cs
      have hle := (List.dropWhile_sublist (· == separator)
        (l := Text.trimChars (c :: cs))).length_le
      rw [h] at hle
      omega
    | false =>
      refine iff_of_true ?_ rfl
      have hdrop : (Text.trimChars name.toList).dropWhile (· == separator) = c :: cs := by
        rw [← toList_normalize, hcs]
      -- nothing is left to trim at the end, and the first character is no separator
      have hsuffix : c :: cs <:+ Text.trimEndChars (Text.trimStartChars name.toList) := by
        rw [← hdrop]
        exact List.dropWhile_suffix _
      have htrim : Text.trimChars (c :: cs) = c :: cs := by
        rw [Text.trimChars_cons hblank, ← Text.trimEndChars_cons hblank,
          Text.trimEndChars_eq_self_of_suffix hsuffix]
      rw [htrim, ← hdrop, List.dropWhile_idempotent]

end ClassName

/-! ## The two ways -/

namespace Index

variable {log : List Entry} {c : ClassInfo}

theorem exists_class?_of_mem (h : Entry.classInfo c ∈ log) :
    ∃ found, (ofEntries log).class? c.name = some found
      ∧ ClassName.key found.name = ClassName.key c.name := by
  have hmem : c ∈ (log.filterMap Entry.class?).filter
      fun c' => ClassName.key c'.name = ClassName.key c.name :=
    List.mem_filter.mpr ⟨List.mem_filterMap.mpr ⟨_, h, rfl⟩, decide_eq_true rfl⟩
  obtain ⟨found, hfound⟩ := Option.ne_none_iff_exists'.mp fun hnone =>
    List.ne_nil_of_mem hmem (List.getLast?_eq_none_iff.mp hnone)
  refine ⟨found, (class?_ofEntries log c.name).trans hfound, ?_⟩
  exact of_decide_eq_true (List.mem_filter.mp (List.mem_of_getLast? hfound)).2

/-- A class that was told is found by a signature exactly if it is the one of its declaration. -/
theorem declaration_mem_bySignature_iff (h : Entry.classInfo c ∈ log) (signature : String) :
    (∃ x ∈ (ofEntries log).bySignature signature, x.identity = c.declaration.identity)
      ↔ Declaration.classSignature (ClassName.normalize c.name) = signature := by
  have hsignature : c.declaration.signature?
      = some (Declaration.classSignature (ClassName.normalize c.name)) := rfl
  rw [exists_mem_bySignature_iff]
  constructor
  · rintro ⟨d, -, hd, hidentity⟩
    rw [Declaration.signature?_eq_of_identity hidentity, hsignature] at hd
    exact Option.some.inj hd
  · intro heq
    refine ⟨c.declaration, List.mem_filterMap.mpr ⟨_, h, rfl⟩, ?_, rfl⟩
    rw [hsignature, heq]

theorem classSignature_normalize_iff (name : String) :
    Declaration.classSignature (ClassName.normalize name) = Declaration.classSignature name
      ↔ ClassName.blankBehindSeparators name = false := by
  rw [Declaration.classSignature, Declaration.classSignature, String.append_right_inj]
  exact ClassName.normalize_normalize_iff name

/-- **When a class is found in both ways.** A class that was told, whatever was told before and
after it, is found by its name, up to a class of the same key that replaced it, and its declaration
is found under the signature of its normal name. The declaration is found under the signature of the
name as it is written exactly if no blank stands behind the separators in front of that name. -/
theorem told_class_found_by_signature_iff (log : List Entry) (c : ClassInfo)
    (h : Entry.classInfo c ∈ log) :
    (∃ found, (ofEntries log).class? c.name = some found
      ∧ ClassName.key found.name = ClassName.key c.name)
    ∧ (∃ x ∈ (ofEntries log).bySignature
        (Declaration.classSignature (ClassName.normalize c.name)),
      x.identity = c.declaration.identity)
    ∧ ((∃ x ∈ (ofEntries log).bySignature (Declaration.classSignature c.name),
        x.identity = c.declaration.identity)
      ↔ ClassName.blankBehindSeparators c.name = false) := by
  refine ⟨exists_class?_of_mem h, (declaration_mem_bySignature_iff h _).mpr rfl, ?_⟩
  rw [declaration_mem_bySignature_iff h, classSignature_normalize_iff]

/-- A class under a name as it is written. -/
def clockClass (name path : String) : ClassInfo := ⟨name, ⟨⟨path⟩, none⟩, none, none⟩

/-- A class that is written with a separator in front and blanks around, and replaced by one in
another file. -/
theorem told_class_found_by_signature_iff_replaced :
    let c := clockClass " \\App\\Clock " "src/Clock.php"
    let log := [Entry.classInfo c, .classInfo (clockClass "app\\clock" "lib/Clock.php")]
    ClassName.blankBehindSeparators c.name = false
      ∧ ∃ x ∈ (ofEntries log).bySignature (Declaration.classSignature c.name),
        x.identity = c.declaration.identity := by
  intro c log
  have hblank : ClassName.blankBehindSeparators c.name = false := by decide +kernel
  have hways := told_class_found_by_signature_iff log c List.mem_cons_self
  exact ⟨hblank, hways.2.2.mpr hblank⟩

/-- A class with a blank behind the separator is found by its name and not by its signature. -/
theorem blank_behind_separator_hides_class :
    (ofEntries [.classInfo (clockClass "\\ App" "src/App.php")]).class? "\\ App"
        = some (clockClass "\\ App" "src/App.php")
      ∧ (ofEntries [.classInfo (clockClass "\\ App" "src/App.php")]).bySignature
          (Declaration.classSignature "\\ App") = [] := by
  decide +kernel

end Index

end Signpost
