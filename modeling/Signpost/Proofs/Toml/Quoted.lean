/-
`Proofs/Toml/Quoted.lean` -- strings that read back.

A string stands between quotes, one or three on each side, double or single. Between double quotes
some characters are escaped; between single quotes every character stands for itself, so that form
is chosen only for strings that can do without escapes. The scanner keeps the characters it has
read, but in a long string it holds the quotes at the end of them apart, since they may turn out to
be the ones that end it: what has been read is `readSoFar`, and the invariant of both loops is that
no more than two quotes are ever held apart.

The four ways meet in `spells_quote`: however a string is written, it is read back.
-/
import Signpost.Toml.Printer
import Signpost.Proofs.Toml.Spelling

set_option autoImplicit false

namespace Signpost.Toml.Token

/-! ## Between double quotes -/

/-- The mode inside a string in double quotes, after the given characters, last first, and some more
quotes. In a long string those are kept apart, since they may turn out to end it. -/
def inside (long : Bool) (done : List Char) (run : Nat) : Mode :=
  if long then .long Text.doubleQuote done run else .basic done

/-- The number of quotes that may stand in a row without being escaped. -/
def allowed (long : Bool) : Nat := if long then 2 else 0

/-- What has been read inside a string, last first: the given characters and then some quotes. -/
def readSoFar (quote : Char) (done : List Char) (run : Nat) : List Char :=
  List.replicate run quote ++ done

section Escapes

variable {before : List Token} {long : Bool} {done : List Char} {run : Nat}

/-- Inside double quotes a backslash begins an escape, whatever quotes were held apart. -/
theorem step_backslash (hrun : run ≤ allowed long) :
    Scanner.step ⟨inside long done run, before⟩ '\\'
      = some ⟨.escape long (readSoFar Text.doubleQuote done run), before⟩ := by
  cases long with
  | false =>
    obtain rfl : run = 0 := Nat.le_zero.mp hrun
    rfl
  | true =>
    have hshort : ¬ 3 ≤ run := by
      have : run ≤ 2 := hrun
      omega
    have hquote : ¬ '\\' = Text.doubleQuote := by decide
    simp only [inside, if_true, Scanner.step, Scanner.insideLong, if_neg hquote, if_neg hshort,
      readSoFar]
    rfl

/-- The letter after it stands for its character, and the string goes on. -/
theorem step_escaped {chars : List Char} {letter c : Char} (h : escaped? letter = some c) :
    Scanner.step ⟨.escape long chars, before⟩ letter
      = some ⟨inside long (c :: chars) 0, before⟩ := by
  have hne : ∀ x, escaped? x = none → letter ≠ x := by
    rintro x hx rfl
    rw [h] at hx
    cases hx
  simp [Scanner.step, Scanner.afterBackslash, Scanner.resume, inside, h, hne 'u' (by decide),
    hne 'U' (by decide), hne ' ' (by decide), hne '\t' (by decide), hne '\n' (by decide)]

/-- A character that has a letter of its own. -/
theorem foldlM_letter (hrun : run ≤ allowed long) {letter c : Char}
    (h : escaped? letter = some c) :
    ['\\', letter].foldlM Scanner.step ⟨inside long done run, before⟩
      = some ⟨inside long (c :: readSoFar Text.doubleQuote done run) 0, before⟩ := by
  rw [List.foldlM_cons, step_backslash hrun, Option.bind_eq_bind, Option.bind_some,
    List.foldlM_cons, step_escaped h]
  rfl

/-- The four digits of a code below 128 are two zeros and its two digits in base 16. -/
theorem hexDigit?_codeDigits : ∀ n < 128, n < 32 ∨ n = 127 →
    (codeDigits n).toList.map Json.Token.hexDigit?
      = [some 0, some 0, some (n / 16), some (n % 16)] := by
  decide +kernel

/-- Four digits name the character with that number. -/
theorem foldlM_codeDigits {chars : List Char} {n : Nat} (h : n < 32 ∨ n = 127) :
    (codeDigits n).toList.foldlM Scanner.step ⟨.code long chars 4 0, before⟩
      = some ⟨inside long (Char.ofNat n :: chars) 0, before⟩ := by
  have hdigits := hexDigit?_codeDigits n (by omega) h
  simp only [List.map_eq_cons_iff, List.map_eq_nil_iff] at hdigits
  obtain ⟨a, _, hcs, ha, b, _, rfl, hb, c, _, rfl, hc, d, _, rfl, hd, rfl⟩ := hdigits
  have hvalue : n / 16 * 16 + n % 16 = n := by omega
  have hvalid : n.isValidChar := .inl (by omega)
  rw [hcs]
  simp [Scanner.step, Scanner.insideCode, Scanner.resume, inside, ha, hb, hc, hd, hvalue, hvalid]

/-- What is printed as it is may stand as it is. -/
theorem isPlain_of_printed {c : Char} (hlow : ¬ (c.toNat < 32 || c.toNat = 127) = true) :
    isPlain c = true := by
  simp only [Bool.or_eq_true, decide_eq_true_eq, not_or] at hlow
  simp only [isPlain, Bool.or_eq_true, Bool.and_eq_true, decide_eq_true_eq, ne_eq]
  right
  omega

/-- A character that stands for itself. -/
theorem step_plain (hrun : run ≤ allowed long) {c : Char} (hquote : c ≠ Text.doubleQuote)
    (hback : c ≠ '\\') (hplain : isPlain c = true ∨ (c = '\n' ∧ long = true)) :
    Scanner.step ⟨inside long done run, before⟩ c
      = some ⟨inside long (c :: readSoFar Text.doubleQuote done run) 0, before⟩ := by
  cases long with
  | false =>
    obtain rfl : run = 0 := Nat.le_zero.mp hrun
    have hplain : isPlain c = true := hplain.resolve_right fun h => Bool.false_ne_true h.2
    simp [inside, Scanner.step, Scanner.insideBasic, hquote, hback, hplain, readSoFar]
  | true =>
    have hshort : ¬ 3 ≤ run := by
      have : run ≤ 2 := hrun
      omega
    have hplain : isPlain c = true ∨ c = '\n' := hplain.imp_right And.left
    simp [inside, Scanner.step, Scanner.insideLong, hquote, hback, hplain, hshort, readSoFar]

/-- However a character other than a quote or a kept line end is written, it is read as itself. -/
theorem foldlM_escapedChar (hrun : run ≤ allowed long) {c : Char} (hquote : c ≠ Text.doubleQuote) :
    (escapedChar c).toList.foldlM Scanner.step ⟨inside long done run, before⟩
      = some ⟨inside long (c :: readSoFar Text.doubleQuote done run) 0, before⟩ := by
  unfold escapedChar
  -- six characters have a letter of their own
  iterate 6
    split
    · next h => subst h; exact foldlM_letter hrun rfl
  split
  · next h =>
    have hcode : "\\u".toList.foldlM Scanner.step ⟨inside long done run, before⟩
        = some ⟨.code long (readSoFar Text.doubleQuote done run) 4 0, before⟩ := by
      have hletter : "\\u".toList = ['\\', 'u'] := rfl
      rw [hletter, List.foldlM_cons, step_backslash hrun]
      rfl
    have hlow : c.toNat < 32 ∨ c.toNat = 127 := by simpa using h
    rw [String.toList_append, foldlM_append_of_some hcode, foldlM_codeDigits hlow,
      Char.ofNat_toNat]
  · next hback hlow =>
    have hself : c.toString.toList = [c] := by simp
    rw [hself, List.foldlM_cons,
      step_plain hrun hquote hback (.inl (isPlain_of_printed hlow))]
    rfl

/-- **What is written between double quotes is read back.** The quotes at the end of it are still
held apart if the string is a long one. -/
theorem foldlM_escapedChars (hrun : run ≤ allowed long) (cs : List Char) :
    ∃ done' run', run' ≤ allowed long
      ∧ readSoFar Text.doubleQuote done' run' = cs.reverse ++ readSoFar Text.doubleQuote done run
      ∧ (escapedChars (allowed long) long run cs).toList.foldlM Scanner.step
          ⟨inside long done run, before⟩
        = some ⟨inside long done' run', before⟩ := by
  induction cs generalizing done run with
  | nil => exact ⟨done, run, hrun, rfl, rfl⟩
  | cons c cs ih =>
    rw [escapedChars]
    split
    · next hquote =>
      split
      · next hless =>
        -- a quote that may stand as it is adds to the run
        have hlong : long = true := by
          cases long with
          | true => rfl
          | false => exact absurd hless (Nat.not_lt_zero run)
        subst hlong
        obtain ⟨done', run', hrun', hread, hrest⟩ := @ih done (run + 1) hless
        have hstep : Scanner.step ⟨inside true done run, before⟩ Text.doubleQuote
            = some ⟨inside true done (run + 1), before⟩ := by
          have hfour : run ≠ 4 := by
            have : run < 2 := hless
            omega
          simp [inside, Scanner.step, Scanner.insideLong, hfour]
        refine ⟨done', run', hrun', ?_, ?_⟩
        · rw [hread, hquote, List.reverse_cons, List.append_assoc]
          rfl
        · have hone : "\"".toList = [Text.doubleQuote] := rfl
          rw [String.toList_append, hone, List.singleton_append, List.foldlM_cons, hstep]
          exact hrest
      · -- an escaped one ends the run, like every other character
        obtain ⟨done', run', hrun', hread, hrest⟩ :=
          @ih (Text.doubleQuote :: readSoFar Text.doubleQuote done run) 0 (Nat.zero_le _)
        refine ⟨done', run', hrun', ?_, ?_⟩
        · rw [hread, hquote, List.reverse_cons, List.append_assoc]
          rfl
        · have hescaped : "\\\"".toList.foldlM Scanner.step ⟨inside long done run, before⟩
              = some ⟨inside long (Text.doubleQuote :: readSoFar Text.doubleQuote done run) 0,
                before⟩ :=
            foldlM_letter hrun rfl
          rw [String.toList_append, foldlM_append_of_some hescaped]
          exact hrest
    · next hquote =>
      obtain ⟨done', run', hrun', hread, hrest⟩ :=
        @ih (c :: readSoFar Text.doubleQuote done run) 0 (Nat.zero_le _)
      have hread' : readSoFar Text.doubleQuote done' run'
          = (c :: cs).reverse ++ readSoFar Text.doubleQuote done run := by
        rw [hread, List.reverse_cons, List.append_assoc]
        rfl
      split
      · next hline =>
        have hone : "\n".toList = ['\n'] := rfl
        refine ⟨done', run', hrun', hread', ?_⟩
        rw [String.toList_append, hone, List.singleton_append, List.foldlM_cons, ← hline.1,
          step_plain hrun hquote (by rw [hline.1]; decide) (.inr hline)]
        exact hrest
      · refine ⟨done', run', hrun', hread', ?_⟩
        rw [String.toList_append, foldlM_append_of_some (foldlM_escapedChar hrun hquote)]
        exact hrest

end Escapes

/-! ### What is written -/

/-- Whether a text has no control characters, but for the one that deletes. -/
def isFreeOfControls (s : String) : Bool := s.toList.all fun c => 32 ≤ c.toNat

/-- No character of such a text is a control. -/
theorem le_toNat_of_isFreeOfControls {s : String} {x : Char} (h : isFreeOfControls s = true)
    (hx : x ∈ s.toList) : 32 ≤ x.toNat :=
  of_decide_eq_true (List.all_eq_true.mp h x hx)

theorem isFreeOfControls_append (s t : String) :
    isFreeOfControls (s ++ t) = (isFreeOfControls s && isFreeOfControls t) := by
  simp only [isFreeOfControls, String.toList_append, List.all_append]

/-- Digits in base 16 are no controls. -/
theorem le_toNat_of_hexDigit? {c : Char} (h : Json.Token.hexDigit? c ≠ none) : 32 ≤ c.toNat := by
  have hleast : ∀ x : Char, 32 ≤ x.toNat → x ≤ c → 32 ≤ c.toNat := fun _ hx hle => hx.trans hle
  unfold Json.Token.hexDigit? at h
  split at h
  · next hdigit =>
    rw [Char.isDigit, Bool.and_eq_true] at hdigit
    exact hleast '0' (by decide) (of_decide_eq_true hdigit.1)
  split at h
  · next hletter => exact hleast 'a' (by decide) hletter.1
  split at h
  · next hletter => exact hleast 'A' (by decide) hletter.1
  · exact absurd rfl h

/-- The digits of a code are free of controls, although they stand for one. -/
theorem isFreeOfControls_codeDigits {n : Nat} (h : n < 32 ∨ n = 127) :
    isFreeOfControls (codeDigits n) = true := by
  refine List.all_eq_true.mpr fun x hx => decide_eq_true (le_toNat_of_hexDigit? fun hnone => ?_)
  have hmem := List.mem_map_of_mem (f := Json.Token.hexDigit?) hx
  rw [hexDigit?_codeDigits n (by omega) h, hnone] at hmem
  simp at hmem

/-- No character but a kept line end is written with the help of a control character. -/
theorem isFreeOfControls_escapedChar (c : Char) : isFreeOfControls (escapedChar c) = true := by
  unfold escapedChar
  iterate 6
    split
    · rfl
  split
  · next hlow =>
    have hlow : c.toNat < 32 ∨ c.toNat = 127 := by simpa using hlow
    have hcode : isFreeOfControls "\\u" = true := rfl
    rw [isFreeOfControls_append, hcode, isFreeOfControls_codeDigits hlow, Bool.true_and]
  · next hlow =>
    simp only [Bool.or_eq_true, decide_eq_true_eq, not_or] at hlow
    have hleast : 32 ≤ c.toNat := by omega
    simpa [isFreeOfControls] using hleast

/-- The only control that an escaped text can hold is a line end of its own, in a long string. -/
theorem mem_of_mem_escapedChars {most : Nat} {long : Bool} {run : Nat} {cs : List Char} {x : Char}
    (hx : x.toNat < 32) (h : x ∈ (escapedChars most long run cs).toList) : x = '\n' ∧ x ∈ cs := by
  induction cs generalizing run with
  | nil => cases h
  | cons c cs ih =>
    have hrest : ∀ {piece : String} {run : Nat}, isFreeOfControls piece = true →
        x ∈ (piece ++ escapedChars most long run cs).toList → x = '\n' ∧ x ∈ c :: cs := by
      intro piece run hpiece hmem
      rw [String.toList_append, List.mem_append] at hmem
      rcases hmem with hmem | hmem
      · exact absurd hx (Nat.not_lt.mpr (le_toNat_of_isFreeOfControls hpiece hmem))
      · exact (ih hmem).imp_right (List.mem_cons_of_mem c)
    rw [escapedChars] at h
    split at h
    · split at h
      · exact hrest rfl h
      · exact hrest rfl h
    · split at h
      · next hline =>
        rw [String.toList_append, List.mem_append] at h
        rcases h with h | h
        · obtain rfl : x = '\n' := by simpa using h
          exact ⟨rfl, hline.1 ▸ List.mem_cons_self⟩
        · exact (ih h).imp_right (List.mem_cons_of_mem c)
      · exact hrest (isFreeOfControls_escapedChar c) h

/-- There is no carriage return among them, so making line ends alike leaves the text as it is. -/
theorem notMem_escapedChars {most : Nat} {long : Bool} {run : Nat} {cs : List Char} :
    '\r' ∉ (escapedChars most long run cs).toList := by
  intro hmem
  exact absurd (mem_of_mem_escapedChars (by decide) hmem).1 (by decide)

/-- An escape starts with a backslash, and any other character with itself. -/
theorem head?_escapedChar (c : Char) :
    (escapedChar c).toList.head? = some '\\' ∨ (escapedChar c).toList.head? = some c := by
  unfold escapedChar
  iterate 6
    split
    · exact .inl rfl
  split
  · exact .inl (by simp)
  · exact .inr (by simp)

/-- A string of one line does not start with a quote. -/
theorem exists_cons_escapedChars {cs : List Char} (h : cs ≠ []) :
    ∃ x rest, (escapedChars 0 false 0 cs).toList = x :: rest ∧ x ≠ Text.doubleQuote := by
  obtain ⟨c, cs, rfl⟩ := List.exists_cons_of_ne_nil h
  have hhead : ∀ x, (escapedChars 0 false 0 (c :: cs)).toList.head? = some x →
      x ≠ Text.doubleQuote → ∃ x rest, (escapedChars 0 false 0 (c :: cs)).toList = x :: rest
        ∧ x ≠ Text.doubleQuote := by
    intro x hx hne
    obtain ⟨rest, hrest⟩ := List.head?_eq_some_iff.mp hx
    exact ⟨x, rest, hrest, hne⟩
  by_cases hquote : c = Text.doubleQuote
  · refine hhead '\\' ?_ (by decide)
    simp [escapedChars, hquote]
  · have hwritten : escapedChars 0 false 0 (c :: cs)
        = escapedChar c ++ escapedChars 0 false 0 cs := by
      simp [escapedChars, hquote]
    rcases head?_escapedChar c with hx | hx
    · refine hhead '\\' ?_ (by decide)
      rw [hwritten, String.toList_append, List.head?_append, hx, Option.some_or]
    · refine hhead c ?_ hquote
      rw [hwritten, String.toList_append, List.head?_append, hx, Option.some_or]

/-! ## Between single quotes -/

/-- Between single quotes the scanner collects the characters as they stand. -/
theorem foldlM_literal {before : List Token} {done cs : List Char}
    (hquote : Text.singleQuote ∉ cs) (hplain : ∀ c ∈ cs, isPlain c = true) :
    cs.foldlM Scanner.step ⟨.literal done, before⟩
      = some ⟨.literal (cs.reverse ++ done), before⟩ := by
  induction cs generalizing done with
  | nil => rfl
  | cons c cs ih =>
    have hc : Scanner.step ⟨.literal done, before⟩ c = some ⟨.literal (c :: done), before⟩ := by
      have hne : c ≠ Text.singleQuote := fun h => hquote (h ▸ List.mem_cons_self)
      simp [Scanner.step, Scanner.insideLiteral, hne, hplain c List.mem_cons_self]
    rw [List.foldlM_cons, hc, Option.bind_eq_bind, Option.bind_some,
      ih (fun h => hquote (List.mem_cons_of_mem c h))
        fun x hx => hplain x (List.mem_cons_of_mem c hx),
      List.reverse_cons, List.append_assoc, List.singleton_append]

/-- How the longest run is found: the run at hand and the longest so far. -/
def runStep (q : Char) (seen : Nat × Nat) (c : Char) : Nat × Nat :=
  if c = q then (seen.1 + 1, max seen.2 (seen.1 + 1)) else (0, seen.2)

/-- The longest run of a character is found by one pass that keeps the present run and the longest
so far. -/
theorem longestRun_eq (q : Char) (cs : List Char) :
    longestRun q cs = (cs.foldl (runStep q) (0, 0)).2 := rfl

/-- In that pass the longest so far only grows. -/
theorem le_foldl_runStep (q : Char) (seen : Nat × Nat) (cs : List Char) :
    seen.2 ≤ (cs.foldl (runStep q) seen).2 := by
  induction cs generalizing seen with
  | nil => exact le_rfl
  | cons c cs ih =>
    have hstep : seen.2 ≤ (runStep q seen c).2 := by
      unfold runStep
      split
      · exact le_max_left _ _
      · exact le_rfl
    exact hstep.trans (ih _)

/-- Between three single quotes the scanner collects line ends as well. A run of quotes in the text
is held apart; as none is longer than two, the string does not end there. -/
theorem foldlM_longLiteral {before : List Token} {cs : List Char}
    (hplain : ∀ c ∈ cs, isPlain c = true ∨ c = '\n') {done : List Char} {run best : Nat}
    (hrun : run ≤ 2) (hbest : (cs.foldl (runStep Text.singleQuote) (run, best)).2 ≤ 2) :
    ∃ done' run', run' ≤ 2
      ∧ readSoFar Text.singleQuote done' run' = cs.reverse ++ readSoFar Text.singleQuote done run
      ∧ cs.foldlM Scanner.step ⟨.long Text.singleQuote done run, before⟩
        = some ⟨.long Text.singleQuote done' run', before⟩ := by
  induction cs generalizing done run best with
  | nil => exact ⟨done, run, hrun, rfl, rfl⟩
  | cons c cs ih =>
    have hplain' := fun x hx => hplain x (List.mem_cons_of_mem c hx)
    rw [List.foldl_cons] at hbest
    by_cases hquote : c = Text.singleQuote
    · have hseen : runStep Text.singleQuote (run, best) c = (run + 1, max best (run + 1)) := by
        simp [runStep, hquote]
      rw [hseen] at hbest
      -- the run so far is no longer than the longest
      have hmore : run + 1 ≤ 2 :=
        (le_max_right best (run + 1)).trans ((le_foldl_runStep _ _ cs).trans hbest)
      have hstep : Scanner.step ⟨.long Text.singleQuote done run, before⟩ c
          = some ⟨.long Text.singleQuote done (run + 1), before⟩ := by
        have hfour : run ≠ 4 := by omega
        simp [Scanner.step, Scanner.insideLong, hquote, hfour]
      obtain ⟨done', run', hrun', hread, hrest⟩ := @ih hplain' done (run + 1) _ hmore hbest
      refine ⟨done', run', hrun', ?_, ?_⟩
      · rw [hread, hquote, List.reverse_cons, List.append_assoc]
        rfl
      · rw [List.foldlM_cons, hstep]
        exact hrest
    · have hseen : runStep Text.singleQuote (run, best) c = (0, best) := by
        simp [runStep, hquote]
      rw [hseen] at hbest
      have hstep : Scanner.step ⟨.long Text.singleQuote done run, before⟩ c
          = some ⟨.long Text.singleQuote (c :: readSoFar Text.singleQuote done run) 0, before⟩ := by
        have hshort : ¬ 3 ≤ run := by omega
        have hkind : ¬ Text.singleQuote = Text.doubleQuote := by decide
        simp [Scanner.step, Scanner.insideLong, hquote, hshort, hkind, hplain c List.mem_cons_self,
          readSoFar]
      obtain ⟨done', run', hrun', hread, hrest⟩ :=
        @ih hplain' (c :: readSoFar Text.singleQuote done run) 0 _ (Nat.zero_le 2) hbest
      refine ⟨done', run', hrun', ?_, ?_⟩
      · rw [hread, List.reverse_cons, List.append_assoc]
        rfl
      · rw [List.foldlM_cons, hstep]
        exact hrest

/-! ## Quotes around a string -/

section Around

variable {quote : Char}

/-- A quotation mark. -/
def IsQuote (c : Char) : Prop := c = Text.doubleQuote ∨ c = Text.singleQuote

/-- Between lexemes a quote opens a string. -/
theorem outside_quote (h : IsQuote quote) (before : List Token) :
    Scanner.step ⟨.between, before⟩ quote = some ⟨.opening quote 1, before⟩ := by
  rcases h with rfl | rfl <;> rfl

/-- The mode inside a string of one line, after the given characters, last first. -/
def oneLine (quote : Char) (chars : List Char) : Mode :=
  if quote = Text.doubleQuote then .basic chars else .literal chars

/-- One quote on each side of what is no quote at its start. -/
theorem closed_oneLine (hquote : IsQuote quote) {s : String} {c : Char} {cs : List Char}
    (hc : c ≠ quote) (hreturn : '\r' ∉ c :: cs)
    (hread : ∀ before, (c :: cs).foldlM Scanner.step ⟨oneLine quote [], before⟩
      = some ⟨oneLine quote s.toList.reverse, before⟩) :
    Closed (quote :: c :: cs ++ [quote]) [.text s] where
  adds := by
    intro before rest
    refine scanFrom?_append _ rest ?_
    have hfirst : Scanner.step ⟨.opening quote 1, before⟩ c
        = Scanner.step ⟨oneLine quote [], before⟩ c := by
      rcases hquote with rfl | rfl
      · simp only [Scanner.step, if_neg hc]
        rfl
      · simp only [Scanner.step, if_neg hc]
        rfl
    have hlast : Scanner.step ⟨oneLine quote s.toList.reverse, before⟩ quote
        = some ⟨.between, .text s :: before⟩ := by
      have hself : String.ofList s.toList.reverse.reverse = s := by simp
      rw [← congrArg Token.text hself]
      rcases hquote with rfl | rfl <;> rfl
    have hinner : (quote :: c :: cs).foldlM Scanner.step ⟨.between, before⟩
        = some ⟨oneLine quote s.toList.reverse, before⟩ := by
      rw [List.foldlM_cons, outside_quote hquote, Option.bind_eq_bind, Option.bind_some,
        ← hread before, List.foldlM_cons, List.foldlM_cons, hfirst]
    rw [foldlM_append_of_some hinner, List.foldlM_cons, hlast]
    rfl
  noReturn := by
    have hne : '\r' ≠ quote := by rcases hquote with rfl | rfl <;> decide
    simp only [List.mem_append, List.mem_cons, List.not_mem_nil] at hreturn ⊢
    simp [hne, hreturn]

/-- Two quotes alone are the empty string, unless a third one follows. -/
theorem spells_empty : Spells [Text.doubleQuote, Text.doubleQuote] [.text ""] where
  adds := by
    intro before rest hrest
    have hmode : [Text.doubleQuote, Text.doubleQuote].foldlM Scanner.step ⟨.between, before⟩
        = some ⟨.opening Text.doubleQuote 2, before⟩ := rfl
    refine scanFrom?_of_mode hmode ?_ hrest
    intro c hc
    have hne : c ≠ Text.doubleQuote := by
      simp only [endsLexeme, Bool.and_eq_true, decide_eq_true_eq] at hc
      exact hc.1.2
    simp [Scanner.step, hne, Scanner.emit]
  noReturn := by decide

/-- Three quotes end a long string, however many stood just before them. -/
theorem scanFrom?_closing (hquote : IsQuote quote) {before : List Token} {cs done rest : List Char}
    {run : Nat} (hrun : run ≤ 2) (hrest : Breaks rest)
    (h : cs.foldlM Scanner.step ⟨.between, before⟩ = some ⟨.long quote done run, before⟩) :
    scanFrom? before (cs ++ [quote, quote, quote] ++ rest)
      = scanFrom? (.longText (.ofList (readSoFar quote done run).reverse) :: before) rest := by
  -- with two quotes held apart the third one is the fifth in a row, and that ends the string at
  -- once; else what comes after it does
  by_cases htwo : run = 2
  · subst htwo
    refine scanFrom?_append _ rest ?_
    rw [foldlM_append_of_some h]
    simp [Scanner.step, Scanner.insideLong, Scanner.endLong, Scanner.emit, readSoFar]
  · have hmode : (cs ++ [quote, quote, quote]).foldlM Scanner.step ⟨.between, before⟩
        = some ⟨.long quote done (run + 3), before⟩ := by
      have h0 : run ≠ 4 := by omega
      have h1 : run + 1 ≠ 4 := by omega
      have h2 : run + 1 + 1 ≠ 4 := by omega
      rw [foldlM_append_of_some h]
      simp [Scanner.step, Scanner.insideLong, h0, h1, h2]
    refine scanFrom?_of_mode hmode ?_ hrest
    intro c hc
    have hne : c ≠ quote := by
      simp only [endsLexeme, Bool.and_eq_true, decide_eq_true_eq] at hc
      rcases hquote with rfl | rfl
      · exact hc.1.2
      · exact hc.2
    simp [Scanner.step, Scanner.insideLong, hne, Scanner.endLong, Scanner.emit, readSoFar]

/-- A line end just after three quotes does not count. -/
theorem scanFrom?_lead (hquote : IsQuote quote) {before : List Token} {c : Char} (hc : c ≠ '\n')
    (cs : List Char) : scanFrom? before ([quote, quote, quote] ++ c :: cs)
      = scanFrom? before ([quote, quote, quote] ++ '\n' :: c :: cs) := by
  have hopen : [quote, quote, quote].foldlM Scanner.step ⟨.between, before⟩
      = some ⟨.longStart quote, before⟩ := by
    rcases hquote with rfl | rfl <;> rfl
  have hnewline : Scanner.step ⟨.longStart quote, before⟩ '\n'
      = some ⟨.long quote [] 0, before⟩ := rfl
  have hfirst : Scanner.step ⟨.longStart quote, before⟩ c
      = Scanner.step ⟨.long quote [] 0, before⟩ c := by
    simp only [Scanner.step, if_neg hc]
    rfl
  rw [scanFrom?, scanFrom?, foldlM_append_of_some hopen, foldlM_append_of_some hopen,
    List.foldlM_cons, List.foldlM_cons, hnewline, hfirst]
  rfl

/-- Three quotes on each side, and a line end after the first three unless the string can do without
it. -/
theorem spells_long (hquote : IsQuote quote) {s : String} {lead cs : List Char}
    (hlead : lead = ['\n'] ∨ lead = [] ∧ '\n' ∉ cs) (hreturn : '\r' ∉ cs)
    (hread : ∀ before, ∃ done run, run ≤ 2 ∧ readSoFar quote done run = s.toList.reverse
      ∧ cs.foldlM Scanner.step ⟨.long quote [] 0, before⟩ = some ⟨.long quote done run, before⟩) :
    Spells ([quote, quote, quote] ++ lead ++ cs ++ [quote, quote, quote]) [.longText s] where
  adds := by
    intro before rest hrest
    obtain ⟨done, run, hrun, hdone, hcs⟩ := hread before
    have hline : scanFrom? before
        (([quote, quote, quote] ++ '\n' :: cs) ++ [quote, quote, quote] ++ rest)
        = scanFrom? (.longText s :: before) rest := by
      have hopen : ([quote, quote, quote] ++ ['\n']).foldlM Scanner.step ⟨.between, before⟩
          = some ⟨.long quote [] 0, before⟩ := by
        rcases hquote with rfl | rfl <;> rfl
      have hmode : ([quote, quote, quote] ++ '\n' :: cs).foldlM Scanner.step ⟨.between, before⟩
          = some ⟨.long quote done run, before⟩ := by
        rw [← hcs, ← foldlM_append_of_some hopen, List.append_assoc, List.singleton_append]
      rw [scanFrom?_closing hquote hrun hrest hmode, hdone, List.reverse_reverse,
        String.ofList_toList]
    rcases hlead with rfl | ⟨rfl, hnone⟩
    · exact hline
    · -- without a line end the next character is one of the string or a closing quote
      obtain ⟨c, tail, hc, htail⟩ : ∃ c tail, c ≠ '\n' ∧ cs ++ [quote, quote, quote] ++ rest
          = c :: tail := by
        cases cs with
        | nil =>
          refine ⟨quote, _, ?_, rfl⟩
          rcases hquote with rfl | rfl <;> decide
        | cons c cs => exact ⟨c, _, fun h => hnone (h ▸ List.mem_cons_self), rfl⟩
      have hsame := @scanFrom?_lead quote hquote before c hc tail
      rw [← htail] at hsame
      simp only [List.append_assoc, List.cons_append, List.nil_append] at hsame hline ⊢
      exact hsame.trans hline
  noReturn := by
    have hne : '\r' ≠ quote := by rcases hquote with rfl | rfl <;> decide
    have hlead' : '\r' ∉ lead := by rcases hlead with rfl | ⟨rfl, -⟩ <;> decide
    simp [hne, hreturn, hlead']

end Around

/-! ## The four ways of writing a string -/

/-- A text is put between single quotes when it needs no escape, is not empty and holds neither such
a quote nor a line end. -/
theorem of_quotingOf_literal {cs : List Char} (h : quotingOf cs = .literal) :
    (∀ c ∈ cs, needsCode c = false) ∧ longestRun Text.singleQuote cs = 0 ∧ '\n' ∉ cs
      ∧ cs ≠ [] := by
  have hne : cs ≠ [] := by
    rintro rfl
    cases h
  simp only [quotingOf] at h
  split at h
  · cases h
  split at h
  · next hliteral =>
    simp only [Bool.and_eq_true, Bool.not_eq_true', List.any_eq_false, Bool.not_eq_true,
      decide_eq_true_eq, List.contains_eq_mem, decide_eq_false_iff_not] at hliteral
    exact ⟨hliteral.1.1, hliteral.1.2, hliteral.2, hne⟩
  split at h
  · cases h
  split at h
  · cases h
  split at h <;> cases h

/-- It is put between three of them when it needs no escape and no three of them stand together in
it. -/
theorem of_quotingOf_longLiteral {cs : List Char} (h : quotingOf cs = .longLiteral) :
    (∀ c ∈ cs, needsCode c = false) ∧ longestRun Text.singleQuote cs ≤ 2 := by
  simp only [quotingOf] at h
  split at h
  · cases h
  split at h
  · cases h
  split at h
  · cases h
  split at h
  · next hliteral =>
    simpa only [Bool.and_eq_true, Bool.not_eq_true', List.any_eq_false, Bool.not_eq_true,
      decide_eq_true_eq] using hliteral
  split at h <;> cases h

/-- A character that needs no code may stand as it is, or is a line end. -/
theorem isPlain_of_needsCode {c : Char} (h : needsCode c = false) :
    isPlain c = true ∨ c = '\n' := by
  simp only [needsCode, Bool.or_eq_false_iff, Bool.and_eq_false_iff, decide_eq_false_iff_not,
    ne_eq, decide_not, Bool.not_eq_false', decide_eq_true_eq] at h
  simp only [isPlain, Bool.or_eq_true, Bool.and_eq_true, decide_eq_true_eq, ne_eq, decide_not,
    Bool.not_eq_true', decide_eq_false_iff_not]
  obtain ⟨(hlow | htab) | hline, hdelete⟩ := h
  · exact .inl (.inr ⟨Nat.le_of_not_lt hlow, hdelete⟩)
  · exact .inl (.inl htab)
  · exact .inr hline

/-- A text without a run of quotes holds no quote. -/
theorem singleQuote_notMem {cs : List Char} (h : longestRun Text.singleQuote cs = 0) :
    Text.singleQuote ∉ cs := by
  intro hmem
  obtain ⟨left, right, rfl⟩ := List.append_of_mem hmem
  have hpos : 0 < longestRun Text.singleQuote (left ++ Text.singleQuote :: right) := by
    rw [longestRun_eq, List.foldl_append, List.foldl_cons]
    refine lt_of_lt_of_le ?_ (le_foldl_runStep _ _ right)
    rw [runStep, if_pos rfl]
    exact (Nat.succ_pos _).trans_le (le_max_right _ _)
  exact hpos.ne' h

/-- A long string starts with a line end of its own, which the reader drops, when it holds any. -/
theorem toList_lead (cs : List Char) : (if cs.contains '\n' then "\n" else "").toList = ['\n']
    ∨ (if cs.contains '\n' then "\n" else "").toList = [] ∧ '\n' ∉ cs := by
  split
  · exact .inl rfl
  · next h => exact .inr ⟨rfl, by simpa using h⟩

/-- A string between double quotes is read back. -/
theorem spells_basic (s : String) :
    Spells ("\"" ++ escapedChars 0 false 0 s.toList ++ "\"").toList [.text s] := by
  by_cases hs : s.toList = []
  · obtain rfl : s = "" := by simpa using hs
    exact spells_empty
  · obtain ⟨c, cs, hcs, hc⟩ := exists_cons_escapedChars hs
    have hread : ∀ before, (c :: cs).foldlM Scanner.step ⟨oneLine Text.doubleQuote [], before⟩
        = some ⟨oneLine Text.doubleQuote s.toList.reverse, before⟩ := by
      intro before
      obtain ⟨done, run, hrun, hdone, hfold⟩ :=
        @foldlM_escapedChars before false [] 0 (Nat.zero_le _) s.toList
      obtain rfl : run = 0 := Nat.le_zero.mp hrun
      obtain rfl : done = s.toList.reverse := by simpa [readSoFar] using hdone
      rw [← hcs]
      exact hfold
    have hclosed := closed_oneLine (.inl rfl) hc (hcs ▸ notMem_escapedChars) hread
    rw [← hcs] at hclosed
    rw [String.toList_append, String.toList_append]
    exact hclosed.spells

/-- A string between single quotes is read back when that form is the one chosen for it. -/
theorem spells_literal {s : String} (h : quotingOf s.toList = .literal) :
    Spells ("'" ++ s ++ "'").toList [.text s] := by
  obtain ⟨hcodes, hrun, hline, hne⟩ := of_quotingOf_literal h
  have hquote := singleQuote_notMem hrun
  have hplain : ∀ c ∈ s.toList, isPlain c = true := fun c hc =>
    (isPlain_of_needsCode (hcodes c hc)).resolve_right fun h => hline (h ▸ hc)
  have hreturn : '\r' ∉ s.toList := fun hmem => absurd (hcodes _ hmem) (by decide)
  obtain ⟨c, cs, hcs⟩ := List.exists_cons_of_ne_nil hne
  have hread : ∀ before, (c :: cs).foldlM Scanner.step ⟨oneLine Text.singleQuote [], before⟩
      = some ⟨oneLine Text.singleQuote s.toList.reverse, before⟩ := by
    intro before
    rw [← hcs]
    have hfold := @foldlM_literal before [] _ hquote hplain
    rw [List.append_nil] at hfold
    exact hfold
  have hc : c ≠ Text.singleQuote := by
    rintro rfl
    exact hquote (hcs ▸ List.mem_cons_self)
  have hclosed := closed_oneLine (.inr rfl) hc (hcs ▸ hreturn) hread
  rw [← hcs] at hclosed
  rw [String.toList_append, String.toList_append]
  exact hclosed.spells

/-- A string between three double quotes is read back, with the line end in front dropped. -/
theorem spells_longBasic (s : String) :
    Spells ("\"\"\"" ++ (if s.toList.contains '\n' then "\n" else "")
      ++ escapedChars 2 true 0 s.toList ++ "\"\"\"").toList [.longText s] := by
  simp only [String.toList_append]
  refine spells_long (.inl rfl) ?_ notMem_escapedChars fun before => ?_
  · exact (toList_lead s.toList).imp_right <| And.imp_right fun hnone hmem =>
      hnone (mem_of_mem_escapedChars (by decide) hmem).2
  · obtain ⟨done, run, hrun, hdone, hfold⟩ :=
      @foldlM_escapedChars before true [] 0 (Nat.zero_le _) s.toList
    refine ⟨done, run, hrun, ?_, hfold⟩
    rw [hdone]
    exact List.append_nil _

/-- A string between three single quotes is read back when that form is chosen. -/
theorem spells_longLiteral {s : String} (h : quotingOf s.toList = .longLiteral) :
    Spells ("'''" ++ (if s.toList.contains '\n' then "\n" else "") ++ s ++ "'''").toList
      [.longText s] := by
  obtain ⟨hcodes, hrun⟩ := of_quotingOf_longLiteral h
  have hplain := fun c hc => isPlain_of_needsCode (hcodes c hc)
  simp only [String.toList_append]
  refine spells_long (.inr rfl) (toList_lead s.toList) ?_ fun before => ?_
  · exact fun hmem => absurd (hcodes _ hmem) (by decide)
  · obtain ⟨done, run, hrun', hdone, hfold⟩ :=
      @foldlM_longLiteral before s.toList hplain [] 0 0 (Nat.zero_le 2) hrun
    refine ⟨done, run, hrun', ?_, hfold⟩
    rw [hdone]
    exact List.append_nil _

/-- The lexeme that a string is written as. -/
def ofString (s : String) : Token :=
  match quotingOf s.toList with
  | .basic | .literal => .text s
  | .longBasic | .longLiteral => .longText s

/-- **However a string is written, it is read back.** -/
theorem spells_quote (s : String) : Spells (quote s).toList [ofString s] := by
  cases hform : quotingOf s.toList with
  | basic =>
    simp only [quote, ofString, hform]
    exact spells_basic s
  | literal =>
    simp only [quote, ofString, hform]
    exact spells_literal hform
  | longBasic =>
    simp only [quote, ofString, hform]
    exact spells_longBasic s
  | longLiteral =>
    simp only [quote, ofString, hform]
    exact spells_longLiteral hform

end Signpost.Toml.Token
