/-
`Proofs/Text.lean` -- laws of cutting and lowering texts.

Each way of taking a text apart is determined by a short condition on the parts, and that condition
is all that later modules use: a cut at the first separator is the one decomposition whose left part
is free of it, a start or an end is a factor of the text, and the parts between separators are the
one list of separator-free texts that joins to the whole. Blanks around a text are trimmed together
with its own, so a text may be read as it is or with any blanks around it.

The second half is about what normal forms keep. Trimming, unquoting, dropping one mark and lowering
all change a text, but none of them touches a character such as `#` or `|`, so the number of times
such a character occurs is an invariant of every normal form in the library. Counting is enough to
tell two keys apart, and needs no inverse of the lowercase table.
-/
import Signpost.Text.Basic
import Signpost.Text.Lowercase
import Mathlib.Data.List.DropRight

set_option autoImplicit false

namespace Signpost.Text

/-! ## Cutting at the first separator -/

/-- A cut finds the separator that follows a part free of it. -/
theorem cutChars?_append {d : Char} {left : List Char} (hd : d ∉ left) (right : List Char) :
    cutChars? d (left ++ d :: right) = some (left, right) := by
  induction left with
  | nil => simp [cutChars?]
  | cons c left ih =>
    rw [List.mem_cons, not_or] at hd
    rw [List.cons_append, cutChars?, if_neg (Ne.symm hd.1), ih hd.2]
    rfl

/-- **The cut, characterised.** It is the decomposition whose left part is free of the separator;
there is at most one. -/
theorem cutChars?_eq_some_iff {d : Char} {cs left right : List Char} :
    cutChars? d cs = some (left, right) ↔ cs = left ++ d :: right ∧ d ∉ left := by
  constructor
  · intro h
    exact ⟨eq_append_of_cutChars? h, notMem_of_cutChars? h⟩
  · rintro ⟨rfl, hd⟩
    exact cutChars?_append hd right

/-- A character occurs once exactly when it separates two parts that are free of it. -/
theorem count_eq_one_iff {c : Char} {cs : List Char} :
    cs.count c = 1 ↔ ∃ left right, cs = left ++ c :: right ∧ c ∉ left ∧ c ∉ right := by
  constructor
  · intro h
    have hmem : c ∈ cs := List.count_pos_iff.mp (by omega)
    obtain ⟨left, right, rfl, hleft⟩ := List.eq_append_cons_of_mem hmem
    refine ⟨left, right, rfl, hleft, ?_⟩
    rw [List.count_append, List.count_cons_self, List.count_eq_zero_of_not_mem hleft] at h
    exact List.count_eq_zero.mp (by omega)
  · rintro ⟨left, right, rfl, hleft, hright⟩
    rw [List.count_append, List.count_cons_self, List.count_eq_zero_of_not_mem hleft,
      List.count_eq_zero_of_not_mem hright]

/-! ## Starts and ends -/

/-- What is left after a start is the other factor. -/
theorem isPrefixOf?_eq_some_iff {start cs rest : List Char} :
    start.isPrefixOf? cs = some rest ↔ cs = start ++ rest := by
  induction start generalizing cs with
  | nil =>
    show some cs = some rest ↔ cs = rest
    exact Option.some_inj
  | cons c start ih =>
    cases cs with
    | nil =>
      show none = some rest ↔ [] = c :: start ++ rest
      simp
    | cons c' cs =>
      show (if c == c' then start.isPrefixOf? cs else none) = some rest ↔ c' :: cs = _
      rw [List.cons_append, List.cons.injEq]
      by_cases hc : c = c'
      · rw [if_pos (beq_iff_eq.mpr hc), ih]
        exact ⟨fun h => ⟨hc.symm, h⟩, And.right⟩
      · rw [if_neg (fun h => hc (beq_iff_eq.mp h))]
        constructor
        · intro h
          cases h
        · intro h
          exact absurd h.1.symm hc

/-- What follows a start of a text is what has to be appended to it. -/
theorem after?_eq_some_iff {start s rest : String} :
    after? start s = some rest ↔ s = start ++ rest := by
  rw [after?, Option.map_eq_some_iff, ← String.toList_inj, String.toList_append]
  constructor
  · rintro ⟨cs, hcs, rfl⟩
    rw [String.toList_ofList]
    exact isPrefixOf?_eq_some_iff.mp hcs
  · intro h
    exact ⟨rest.toList, isPrefixOf?_eq_some_iff.mpr h, String.ofList_toList⟩

/-- What precedes an end of a text is what it has to be appended to. -/
theorem before?_eq_some_iff {stop s rest : String} :
    before? stop s = some rest ↔ s = rest ++ stop := by
  show ((stop.toList.reverse.isPrefixOf? s.toList.reverse).map List.reverse).map String.ofList
    = some rest ↔ _
  rw [Option.map_map, Option.map_eq_some_iff, ← String.toList_inj, String.toList_append]
  constructor
  · rintro ⟨cs, hcs, rfl⟩
    have h := congrArg List.reverse (isPrefixOf?_eq_some_iff.mp hcs)
    rw [List.reverse_reverse, List.reverse_append, List.reverse_reverse] at h
    rw [Function.comp_apply, String.toList_ofList]
    exact h
  · intro h
    refine ⟨rest.toList.reverse, isPrefixOf?_eq_some_iff.mpr ?_, ?_⟩
    · rw [h, List.reverse_append]
    · rw [Function.comp_apply, List.reverse_reverse, String.ofList_toList]

/-- A text has something after a start, the empty text perhaps, when it has that start. -/
theorem isSome_after? {start s : String} :
    (after? start s).isSome = true ↔ start.toList <+: s.toList := by
  rw [Option.isSome_iff_exists]
  constructor
  · rintro ⟨rest, h⟩
    rw [after?_eq_some_iff.mp h, String.toList_append]
    exact List.prefix_append _ _
  · rintro ⟨cs, h⟩
    refine ⟨.ofList cs, after?_eq_some_iff.mpr ?_⟩
    rw [← String.toList_inj, String.toList_append, String.toList_ofList, h]

/-- To start with a character is to have it at the front. -/
theorem startsWith_eq_true_iff {c : Char} {s : String} :
    startsWith c s = true ↔ ∃ cs, s.toList = c :: cs := by
  rw [startsWith, beq_iff_eq, List.head?_eq_some_iff]

/-- A start that is free of a separator cannot reach across it. -/
theorem prefix_append_cons_iff {c : Char} {start cs rest : List Char} (hc : c ∉ start) :
    start <+: cs ++ c :: rest ↔ start <+: cs := by
  constructor
  · intro h
    rcases List.prefix_or_prefix_of_prefix h (List.prefix_append cs (c :: rest)) with hcs | hcs
    · exact hcs
    · obtain ⟨more, rfl⟩ := hcs
      rw [List.prefix_append_right_inj] at h
      cases more with
      | nil => simp
      | cons x more =>
        have hx : x = c := (List.cons_prefix_cons.mp h).1
        exact absurd (List.mem_append_right cs (hx ▸ List.mem_cons_self)) hc
  · intro h
    exact h.trans (List.prefix_append _ _)

/-! ## Cutting at the last separator -/

/-- The parts of a cut and the separator make up the text again. -/
theorem eq_append_of_cutLastChars? {separator cs left right : List Char}
    (h : cutLastChars? separator cs = some (left, right)) : cs = left ++ separator ++ right := by
  induction cs generalizing left with
  | nil => cases h
  | cons c cs ih =>
    rw [cutLastChars?] at h
    split at h
    · next later hlater =>
      cases h
      rw [List.cons_append, List.cons_append, ← ih hlater]
    · obtain ⟨rest, hrest, hparts⟩ := Option.map_eq_some_iff.mp h
      cases hparts
      exact isPrefixOf?_eq_some_iff.mp hrest

/-- A cut at the last separator loses that separator and nothing else. -/
theorem eq_append_of_cutLast? {separator s left right : String}
    (h : cutLast? separator s = some (left, right)) : s = left ++ separator ++ right := by
  obtain ⟨⟨l, r⟩, hcut, hparts⟩ := Option.map_eq_some_iff.mp h
  cases hparts
  rw [← String.toList_inj, eq_append_of_cutLastChars? hcut]
  simp

/-- A text that is short of a character of the separator has no cut. -/
theorem cutLastChars?_eq_none_of_count {c : Char} {separator cs : List Char}
    (h : cs.count c < separator.count c) : cutLastChars? separator cs = none := by
  rw [Option.eq_none_iff_forall_not_mem]
  rintro ⟨left, right⟩ hcut
  rw [eq_append_of_cutLastChars? hcut, List.count_append, List.count_append] at h
  omega

/-- The cut is at the separator behind which there is no other, not even one that overlaps it. -/
theorem cutLastChars?_append {c : Char} {separator right : List Char}
    (hlast : cutLastChars? (c :: separator) (separator ++ right) = none) (left : List Char) :
    cutLastChars? (c :: separator) (left ++ c :: separator ++ right) = some (left, right) := by
  induction left with
  | nil =>
    have hhere : (c :: separator).isPrefixOf? (c :: (separator ++ right)) = some right :=
      isPrefixOf?_eq_some_iff.mpr rfl
    rw [List.nil_append, List.cons_append, cutLastChars?, hlast]
    simp only [hhere, Option.map_some]
  | cons x left ih => rw [List.cons_append, List.cons_append, cutLastChars?, ih]

/-! ## Parts between separators -/

/-- The texts with the separator between each two of them. -/
def join (separator : Char) (parts : List String) : String :=
  (String.singleton separator).intercalate parts

/-- Joining texts is putting the separator between their characters. -/
theorem toList_join (separator : Char) (parts : List String) :
    (join separator parts).toList = [separator].intercalate (parts.map String.toList) := by
  rw [join, String.toList_intercalate, String.toList_singleton]

/-- Splitting a text is splitting its characters. -/
theorem map_toList_split (separator : Char) (s : String) :
    (split separator s).map String.toList = s.toList.splitOn separator := by
  rw [split, List.map_map]
  exact List.map_id'' (fun _ => String.toList_ofList) _

/-- Joining the parts of a text gives it back. -/
theorem join_split (separator : Char) (s : String) : join separator (split separator s) = s := by
  rw [← String.toList_inj, toList_join, map_toList_split, List.intercalate_splitOn]

/-- Separator-free texts are the parts of what they join to. -/
theorem split_join {separator : Char} {parts : List String} (hne : parts ≠ [])
    (hfree : ∀ part ∈ parts, separator ∉ part.toList) :
    split separator (join separator parts) = parts := by
  have hchars : (join separator parts).toList.splitOn separator = parts.map String.toList := by
    rw [toList_join]
    refine List.splitOn_intercalate separator ?_ (by simpa using hne)
    intro cs hcs
    obtain ⟨part, hpart, rfl⟩ := List.mem_map.mp hcs
    exact hfree part hpart
  rw [split, hchars, List.map_map]
  exact List.map_id'' (fun _ => String.ofList_toList) _

/-- No part holds the separator. -/
theorem splitOn_free {separator : Char} {cs : List Char} :
    ∀ part ∈ cs.splitOn separator, separator ∉ part := by
  induction cs with
  | nil => simp
  | cons c cs ih =>
    rw [List.splitOn_cons_eq_if_modifyHead]
    by_cases hc : c = separator
    · rw [if_pos (beq_iff_eq.mpr hc)]
      intro part hpart
      rcases List.mem_cons.mp hpart with rfl | hpart
      · exact List.not_mem_nil
      · exact ih part hpart
    · rw [if_neg (fun h => hc (beq_iff_eq.mp h))]
      cases hparts : cs.splitOn separator with
      | nil => exact absurd hparts (List.splitOn_ne_nil separator cs)
      | cons first parts =>
        rw [hparts] at ih
        intro part hpart
        rw [List.modifyHead_cons] at hpart
        rcases List.mem_cons.mp hpart with rfl | hpart
        · rw [List.mem_cons, not_or]
          exact ⟨Ne.symm hc, ih first List.mem_cons_self⟩
        · exact ih part (List.mem_cons_of_mem _ hpart)

/-- No part of a text holds the separator. -/
theorem separator_notMem_of_mem_split {separator : Char} {s part : String}
    (h : part ∈ split separator s) : separator ∉ part.toList := by
  obtain ⟨cs, hcs, rfl⟩ := List.mem_map.mp h
  rw [String.toList_ofList]
  exact splitOn_free cs hcs

/-! ## Blanks around a text -/

/-- A text of blanks. -/
structure Blanks where
  text : String
  blank : text.toList.all isBlank = true

/-- Every character of a blank text is blank. -/
theorem Blanks.isBlank_of_mem (blanks : Blanks) {c : Char} (hc : c ∈ blanks.text.toList) :
    isBlank c = true :=
  List.all_eq_true.mp blanks.blank c hc

/-- Blanks at the end go with those before them. -/
theorem trimEndChars_append {after : List Char} (h : ∀ c ∈ after, isBlank c = true)
    (cs : List Char) : trimEndChars (cs ++ after) = trimEndChars cs := by
  rw [trimEndChars, List.reverse_append, List.dropWhile_append_of_pos, trimEndChars]
  exact fun c hc => h c (List.mem_reverse.mp hc)

/-- A character that is not blank stays, with all that is kept after it. -/
theorem trimEndChars_cons {c : Char} (hc : isBlank c = false) (cs : List Char) :
    trimEndChars (c :: cs) = c :: trimEndChars cs := by
  rw [trimEndChars, List.reverse_cons, List.dropWhile_append, trimEndChars]
  split
  · next h => rw [List.isEmpty_iff.mp h]; simp [hc]
  · simp

/-- Where no blank stands in front, only the end is trimmed. -/
theorem trimChars_cons {c : Char} (hc : isBlank c = false) (cs : List Char) :
    trimChars (c :: cs) = c :: trimEndChars cs := by
  have hstart : trimStartChars (c :: cs) = c :: cs := List.dropWhile_cons_of_neg (by simp [hc])
  rw [trimChars, hstart, trimEndChars_cons hc]

/-- **Blanks around a text are trimmed** with those of the text itself. -/
theorem trimChars_append {before after : List Char} (hbefore : ∀ c ∈ before, isBlank c = true)
    (hafter : ∀ c ∈ after, isBlank c = true) (cs : List Char) :
    trimChars (before ++ cs ++ after) = trimChars cs := by
  rw [trimChars, trimStartChars, List.append_assoc, List.dropWhile_append_of_pos hbefore,
    List.dropWhile_append]
  split
  · next hblank =>
    -- nothing but blanks from end to end
    have hnone : after.dropWhile isBlank = [] := List.dropWhile_eq_nil_iff.mpr hafter
    rw [trimChars, trimStartChars, List.isEmpty_iff.mp hblank, hnone]
  · rw [trimEndChars_append hafter, trimChars, trimStartChars]

/-- Trimming the end again trims nothing more. -/
theorem trimEndChars_trimEndChars (cs : List Char) :
    trimEndChars (trimEndChars cs) = trimEndChars cs :=
  List.rdropWhile_idempotent isBlank cs

/-- What is kept is a start of the text. -/
theorem trimEndChars_prefix (cs : List Char) : trimEndChars cs <+: cs :=
  List.rdropWhile_prefix isBlank cs

/-- What is trimmed at the end is made of blanks. -/
theorem exists_trimEndChars_append (cs : List Char) :
    ∃ after, (∀ c ∈ after, isBlank c = true) ∧ trimEndChars cs ++ after = cs := by
  refine ⟨cs.rtakeWhile isBlank, ?_, List.rdropWhile_append_rtakeWhile⟩
  intro c hc
  exact List.mem_rtakeWhile_imp hc

/-- The end may be trimmed before both are. -/
theorem trimChars_trimEndChars (cs : List Char) : trimChars (trimEndChars cs) = trimChars cs := by
  obtain ⟨after, hafter, hcs⟩ := exists_trimEndChars_append cs
  have hbefore : ∀ c ∈ ([] : List Char), isBlank c = true := by simp
  have htrim := trimChars_append hbefore hafter (trimEndChars cs)
  rw [List.nil_append, hcs] at htrim
  exact htrim.symm

/-- A trimmed text is its own trimmed form. -/
theorem trimChars_trimChars (cs : List Char) : trimChars (trimChars cs) = trimChars cs := by
  have hstart : trimStartChars (trimStartChars cs) = trimStartChars cs :=
    List.dropWhile_idempotent ..
  calc trimChars (trimChars cs) = trimChars (trimStartChars cs) := trimChars_trimEndChars _
    _ = trimChars cs := by rw [trimChars, hstart, trimChars]

/-- A character that is no blank, put before a trimmed text, leaves nothing to trim. -/
theorem trimChars_cons_trimChars {c : Char} (hc : isBlank c = false) (cs : List Char) :
    trimChars (c :: trimChars cs) = c :: trimChars cs := by
  rw [trimChars_cons hc, trimChars, trimEndChars_trimEndChars]

/-- So is one without blanks. -/
theorem trimChars_eq_self {cs : List Char} (h : ∀ c ∈ cs, isBlank c = false) :
    trimChars cs = cs := by
  have hdrop : ∀ xs : List Char, (∀ c ∈ xs, isBlank c = false) → xs.dropWhile isBlank = xs := by
    intro xs hxs
    cases xs with
    | nil => rfl
    | cons c xs => rw [List.dropWhile_cons_of_neg (by simp [hxs c List.mem_cons_self])]
  rw [trimChars, trimEndChars, trimStartChars, hdrop cs h,
    hdrop cs.reverse (fun c hc => h c (List.mem_reverse.mp hc)), List.reverse_reverse]

/-- Trimming leaves characters out and changes none. -/
theorem trimChars_sublist (cs : List Char) : (trimChars cs).Sublist cs := by
  have hend : (trimEndChars (trimStartChars cs)).Sublist (trimStartChars cs) := by
    rw [← List.reverse_sublist, trimEndChars, List.reverse_reverse]
    exact List.dropWhile_sublist _
  exact hend.trans (List.dropWhile_sublist _)

/-! ## What normal forms keep

`count_*` lemmas: a character that a step does not remove occurs as often after it as before. -/

/-- A character that stops the dropping occurs as often after it. -/
theorem count_dropWhile {p : Char → Bool} {c : Char} (hc : p c = false) (cs : List Char) :
    (cs.dropWhile p).count c = cs.count c := by
  have htake : c ∉ cs.takeWhile p := by
    intro h
    rw [List.all_eq_true.mp List.all_takeWhile c h] at hc
    exact absurd hc (by decide)
  have hsum : (cs.takeWhile p).count c + (cs.dropWhile p).count c = cs.count c := by
    rw [← List.count_append, List.takeWhile_append_dropWhile]
  rw [List.count_eq_zero_of_not_mem htake] at hsum
  omega

/-- Trimming keeps how often a character occurs that is not blank. -/
theorem count_trimChars {c : Char} (hc : isBlank c = false) (cs : List Char) :
    (trimChars cs).count c = cs.count c := by
  rw [trimChars, trimEndChars, trimStartChars, List.count_reverse, count_dropWhile hc,
    List.count_reverse, count_dropWhile hc]

/-- Dropping one mark keeps how often any other character occurs. -/
theorem count_dropOneChars {c mark : Char} (hc : c ≠ mark) (cs : List Char) :
    (dropOneChars mark cs).count c = cs.count c := by
  cases cs with
  | nil => rfl
  | cons x cs =>
    rw [dropOneChars]
    by_cases hx : x = mark
    · rw [if_pos hx, List.count_cons_of_ne (by rw [hx]; exact Ne.symm hc)]
    · rw [if_neg hx]

/-- Unquoting keeps how often a character occurs that is no quote. -/
theorem count_unquoteChars {c : Char} (hdouble : c ≠ doubleQuote) (hsingle : c ≠ singleQuote)
    (cs : List Char) : (unquoteChars cs).count c = cs.count c := by
  cases cs with
  | nil => rfl
  | cons q rest =>
    rw [unquoteChars]
    split
    · next h =>
      obtain ⟨hq, hlast⟩ := h
      have hqc : q ≠ c := by
        rcases hq with rfl | rfl
        · exact Ne.symm hdouble
        · exact Ne.symm hsingle
      obtain ⟨body, rfl⟩ := List.getLast?_eq_some_iff.mp hlast
      rw [List.dropLast_concat, List.count_cons_of_ne hqc, List.count_append,
        List.count_cons_of_ne hqc, List.count_nil, Nat.add_zero]
    · rfl

/-! ## Characters without case

A character is left alone by lowering when it is no capital of the table, and it is the lowercase of
nothing else when it lies in no image of a run. Both are decidable once the character is fixed. -/

/-- The characters that have a rule of their own, with what the rules make of them, and the
character that stands for a code point out of range. -/
def specialCases : List Char := ['İ', 'i', '\u0307', 'Σ', 'σ', 'ς', '\x00']

/-- Whether lowering neither changes the character nor makes it out of another one. -/
def isCaseless (c : Char) : Bool :=
  lowercaseRuns.all (fun r => !r.covers c.toNat
    && (decide ((c.toNat : Int) < r.first + r.shift) || decide (r.last + r.shift < (c.toNat : Int))))
  && decide (c ∉ specialCases)

theorem ne_of_mem_specialCases {c x : Char} (hc : isCaseless c = true) (hx : x ∈ specialCases) :
    x ≠ c := by
  rw [isCaseless, Bool.and_eq_true, decide_eq_true_eq] at hc
  rintro rfl
  exact hc.2 hx

/-- A character without case is its own lowercase. -/
theorem lowercaseCode_eq_of_isCaseless {c : Char} (hc : isCaseless c = true) :
    lowercaseCode c.toNat = c.toNat := by
  rw [isCaseless, Bool.and_eq_true, List.all_eq_true] at hc
  have hnone : lowercaseRuns.find? (·.covers c.toNat) = none := by
    rw [List.find?_eq_none]
    intro r hr hcov
    have h := hc.1 r hr
    rw [hcov] at h
    exact absurd h (by simp)
  rw [lowercaseCode, hnone]

/-- A number that is no code point gives the null character. -/
theorem toNat_ofNat_or_eq_nul (n : Nat) : (Char.ofNat n).toNat = n ∨ Char.ofNat n = '\x00' := by
  rw [Char.ofNat]
  by_cases hn : n.isValidChar
  · rw [dif_pos hn]
    exact Or.inl rfl
  · rw [dif_neg hn]
    exact Or.inr rfl

/-- Nothing else is lowered to it: a run sends its characters between its shifted ends, and such a
character is not there. -/
theorem ofNat_lowercaseCode_eq_iff {c : Char} (hc : isCaseless c = true) (x : Char) :
    Char.ofNat (lowercaseCode x.toNat) = c ↔ x = c := by
  constructor
  · intro h
    cases hrun : lowercaseRuns.find? (·.covers x.toNat) with
    | none =>
      rw [lowercaseCode, hrun, Char.ofNat_toNat] at h
      exact h
    | some r =>
      -- the image of a run lies between its shifted ends, where `c` does not
      have hzero : c ≠ '\x00' := Ne.symm (ne_of_mem_specialCases hc (by decide))
      rw [isCaseless, Bool.and_eq_true, List.all_eq_true] at hc
      have hout := hc.1 r (List.mem_of_find?_eq_some hrun)
      have hcov : r.covers x.toNat = true :=
        List.find?_some (p := fun r : CaseRun => r.covers x.toNat) hrun
      rw [lowercaseCode, hrun] at h
      simp only [CaseRun.covers, Bool.and_eq_true, decide_eq_true_eq, Bool.or_eq_true] at hcov hout
      rcases toNat_ofNat_or_eq_nul ((x.toNat : Int) + r.shift).toNat with hval | hnul
      · rw [h] at hval
        have hpos : c.toNat ≠ 0 := by
          intro h0
          exact hzero (by rw [← Char.ofNat_toNat c, h0])
        omega
      · exact absurd (h.symm.trans hnul) hzero
  · rintro rfl
    rw [lowercaseCode_eq_of_isCaseless hc, Char.ofNat_toNat]

/-- So lowering one character keeps whether it is this one. -/
theorem count_lowerChar {c : Char} (hc : isCaseless c = true) (x : Char) :
    (lowerChar x).count c = [x].count c := by
  rw [lowerChar]
  by_cases hx : x = 'İ'
  · rw [if_pos hx, hx, List.count_cons_of_ne (ne_of_mem_specialCases hc (by decide)),
      List.count_cons_of_ne (ne_of_mem_specialCases hc (by decide)),
      List.count_cons_of_ne (ne_of_mem_specialCases hc (by decide))]
  · rw [if_neg hx]
    by_cases hxc : x = c
    · rw [(ofNat_lowercaseCode_eq_iff hc x).mpr hxc, hxc]
    · have hne : Char.ofNat (lowercaseCode x.toNat) ≠ c :=
        fun h => hxc ((ofNat_lowercaseCode_eq_iff hc x).mp h)
      rw [List.count_cons_of_ne hne, List.count_cons_of_ne hxc]

/-- Lowering keeps the number of occurrences of a character without case. The induction is on the
text, for every context in front of it, because a sigma looks back. -/
theorem count_lowerChars {c : Char} (hc : isCaseless c = true) (before cs : List Char) :
    (lowerChars before cs).count c = cs.count c := by
  induction cs generalizing before with
  | nil => rfl
  | cons x cs ih =>
    rw [lowerChars]
    by_cases hx : x = 'Σ'
    · have hsigma : lowerSigma before cs ≠ c := by
        rw [lowerSigma]
        split
        · exact ne_of_mem_specialCases hc (by decide)
        · exact ne_of_mem_specialCases hc (by decide)
      rw [if_pos hx, List.count_cons_of_ne hsigma, ih, hx,
        List.count_cons_of_ne (ne_of_mem_specialCases hc (by decide))]
    · rw [if_neg hx, List.count_append, ih, count_lowerChar hc, ← List.count_append,
        List.singleton_append]

end Signpost.Text
