/-
`Proofs/Json/Spelling.lean` -- texts that spell lexemes.

The scanner reads a text one character at a time and keeps the lexemes it has found. Between two
lexemes its whole state is that list, so reading on from there is a function of the list and the
rest of the text, `scanFrom?`, and a piece of text is told by what it adds to the list. A piece that
is `Closed` adds its lexemes whatever comes after it. A word has no end of its own: a piece that
only `Spells` its lexemes needs to be followed by a blank, a quote, a mark or the end.

The pieces that printing puts together are marks, blanks, quoted strings and words. Each spells its
lexeme, and a printed value is put together from them by two rules: what follows a closed piece may
be anything, and what follows any other piece has to start with a mark or a blank.
-/
import Signpost.Json.Token
import Signpost.Json.Printer
import Mathlib.Data.List.Basic
import Mathlib.Data.List.TakeWhile

set_option autoImplicit false

namespace Signpost

/-- A machine that has read one part of its input goes on with the rest. -/
theorem foldlM_append_of_some {σ α : Type} {step : σ → α → Option σ} {s s' : σ} {xs : List α}
    (h : xs.foldlM step s = some s') (ys : List α) :
    (xs ++ ys).foldlM step s = ys.foldlM step s' := by
  rw [List.foldlM_append, h]
  rfl

namespace Json.Token

/-! ## Reading on -/

/-- The lexemes of a text whose first part has been read, given those of that part, last first. -/
def scanFrom? (before : List Token) (cs : List Char) : Option (List Token) :=
  cs.foldlM Scanner.step ⟨.between, before⟩ >>= Scanner.finish?

/-- A whole text is scanned with nothing before it. -/
theorem scan?_eq (cs : List Char) : scan? cs = scanFrom? [] cs := rfl

/-- At the end the lexemes that were found come out in order. -/
theorem scanFrom?_nil (before : List Token) : scanFrom? before [] = some before.reverse := rfl

/-- Reading on after a part that is read to its end. -/
theorem scanFrom?_append {before after : List Token} (cs rest : List Char)
    (h : cs.foldlM Scanner.step ⟨.between, before⟩ = some ⟨.between, after⟩) :
    scanFrom? before (cs ++ rest) = scanFrom? after rest := by
  rw [scanFrom?, foldlM_append_of_some h, scanFrom?]

/-- Gaps add nothing. -/
theorem scanFrom?_gap {before : List Token} {c : Char} (rest : List Char) (h : isGap c = true) :
    scanFrom? before (c :: rest) = scanFrom? before rest := by
  refine scanFrom?_append [c] rest ?_
  simp [Scanner.step, Scanner.outside, h]

/-- A mark adds its lexeme. -/
theorem scanFrom?_mark {before : List Token} {c : Char} {t : Token} (rest : List Char)
    (h : ofMark? c = some t) : scanFrom? before (c :: rest) = scanFrom? (t :: before) rest := by
  have hgap : isGap c = false := by
    rw [Bool.eq_false_iff]
    intro hgap
    simp only [isGap, Bool.or_eq_true, decide_eq_true_eq] at hgap
    obtain ((rfl | rfl) | rfl) | rfl := hgap <;> cases h
  have hquote : c ≠ Text.doubleQuote := by
    rintro rfl
    cases h
  refine scanFrom?_append [c] rest ?_
  simp [Scanner.step, Scanner.outside, hgap, hquote, h]

/-! ### Words -/

/-- What follows a word without going on with it. -/
def Breaks (rest : List Char) : Prop := ∀ c, rest.head? = some c → Scanner.endsWord c = true

/-- The end of the text ends a word. -/
theorem breaks_nil : Breaks [] := by
  intro c h
  cases h

/-- A word collects its characters until one comes that ends it. -/
theorem foldlM_word {before : List Token} {read cs : List Char}
    (h : ∀ c ∈ cs, Scanner.endsWord c = false) :
    cs.foldlM Scanner.step ⟨.word read, before⟩ = some ⟨.word (cs.reverse ++ read), before⟩ := by
  induction cs generalizing read with
  | nil => rfl
  | cons c cs ih =>
    have hc : Scanner.step ⟨.word read, before⟩ c = some ⟨.word (c :: read), before⟩ := by
      simp [Scanner.step, h c List.mem_cons_self]
    rw [List.foldlM_cons, hc, Option.bind_eq_bind, Option.bind_some,
      ih fun x hx => h x (List.mem_cons_of_mem c hx), List.reverse_cons, List.append_assoc,
      List.singleton_append]

/-- A word is read up to the character that ends it. -/
theorem scanFrom?_word {before : List Token} {w rest : List Char} {v : Json}
    (hv : ofWord? w = some v) (hne : w ≠ []) (hw : ∀ c ∈ w, Scanner.endsWord c = false)
    (hrest : Breaks rest) : scanFrom? before (w ++ rest) = scanFrom? (.atom v :: before) rest := by
  obtain ⟨c, cs, rfl⟩ := List.exists_cons_of_ne_nil hne
  have hend := hw c List.mem_cons_self
  have hfirst : Scanner.step ⟨.between, before⟩ c = some ⟨.word [c], before⟩ := by
    simp only [Scanner.endsWord, Bool.or_eq_false_iff, decide_eq_false_iff_not,
      Option.isSome_eq_false_iff, Option.isNone_iff_eq_none] at hend
    simp [Scanner.step, Scanner.outside, hend.1.1, hend.1.2, hend.2]
  have hword : (c :: cs).foldlM Scanner.step ⟨.between, before⟩
      = some ⟨.word (c :: cs).reverse, before⟩ := by
    rw [List.foldlM_cons, hfirst, Option.bind_eq_bind, Option.bind_some,
      foldlM_word fun x hx => hw x (List.mem_cons_of_mem c hx), List.reverse_cons]
  rw [scanFrom?, foldlM_append_of_some hword]
  cases rest with
  | nil =>
    rw [scanFrom?_nil]
    simp [Scanner.finish?, hv]
  | cons x rest =>
    -- the character that ends the word is read as it would be between two lexemes
    have hx : Scanner.endsWord x = true := hrest x rfl
    have hstep : Scanner.step ⟨.word (c :: cs).reverse, before⟩ x
        = Scanner.step ⟨.between, .atom v :: before⟩ x := by
      simp [Scanner.step, hx, hv]
    rw [scanFrom?, List.foldlM_cons, List.foldlM_cons, hstep]

/-! ### Strings -/

/-- A string of which the given characters have been read. -/
def Literal.ofChars (cs : List Char) : Literal := ⟨cs.reverse, none, false⟩

/-- A string without halves of pairs grows by a character at a time. -/
theorem Literal.push_ofChars (cs : List Char) (c : Char) :
    (ofChars cs).push c = ofChars (cs ++ [c]) := by
  simp [ofChars, push]

/-- Such a string is the text of its characters. -/
theorem Literal.value_ofChars (cs : List Char) : (ofChars cs).value = .str (.ofList cs) := by
  simp [ofChars, value]

/-- A digit in base 16 is read as what it was written for. -/
theorem hexDigit?_digitChar : ∀ n < 16, hexDigit? (Nat.digitChar n) = some n := by decide

/-- The four digits of a control character. -/
theorem toList_hex4 : ∀ n < 32,
    (Text.hex4 n).toList = ['0', '0', Nat.digitChar (n / 16), Nat.digitChar (n % 16)] := by
  decide +kernel

/-- Four digits name the code unit that they denote. -/
theorem foldlM_hex4 {before : List Token} {n : Nat} (h : n < 32) (t : Literal) :
    (Text.hex4 n).toList.foldlM Scanner.step ⟨.unit t 4 0, before⟩
      = some ⟨.text (t.push (Char.ofNat n)), before⟩ := by
  have hzero : hexDigit? '0' = some 0 := by decide
  have hhigh := hexDigit?_digitChar (n / 16) (by omega)
  have hlow := hexDigit?_digitChar (n % 16) (by omega)
  have hvalue : n / 16 * 16 + n % 16 = n := by omega
  have hunit : t.pushUnit n = t.push (Char.ofNat n) := by
    rw [Literal.pushUnit, if_neg (by omega), if_neg (by omega)]
  rw [toList_hex4 n h]
  simp [Scanner.step, hzero, hhigh, hlow, hvalue, hunit]

/-- However a character stands in a string, it is read as itself. -/
theorem foldlM_escapedChar {before : List Token} (cs : List Char) (c : Char) :
    (escapedChar c).toList.foldlM Scanner.step ⟨.text (.ofChars cs), before⟩
      = some ⟨.text (.ofChars (cs ++ [c])), before⟩ := by
  rw [escapedChar, ← Literal.push_ofChars]
  -- seven characters have an escape of one letter
  iterate 7
    split
    · next h => subst h; rfl
  split
  · next h =>
    have hopen : "\\u".toList.foldlM Scanner.step ⟨.text (.ofChars cs), before⟩
        = some ⟨.unit (.ofChars cs) 4 0, before⟩ := rfl
    rw [String.toList_append, foldlM_append_of_some hopen, foldlM_hex4 h, Char.ofNat_toNat]
  · next hquote hback _ _ _ _ _ hcontrol =>
    have hself : c.toString.toList = [c] := by simp
    rw [hself]
    simp [Scanner.step, hquote, hback, hcontrol]

/-- Inside a string the escapes of characters are read as these. -/
theorem foldlM_escaped {before : List Token} (done cs : List Char) :
    (cs.flatMap fun c => (escapedChar c).toList).foldlM Scanner.step ⟨.text (.ofChars done), before⟩
      = some ⟨.text (.ofChars (done ++ cs)), before⟩ := by
  induction cs generalizing done with
  | nil => simp
  | cons c cs ih =>
    rw [List.flatMap_cons, foldlM_append_of_some (foldlM_escapedChar done c), ih,
      List.append_assoc, List.singleton_append]

/-- A quoted text is its escapes between two quotation marks. -/
theorem toList_quote (s : String) :
    (quote s).toList
      = Text.doubleQuote :: ((s.toList.flatMap fun c => (escapedChar c).toList)
        ++ [Text.doubleQuote]) := by
  simp [quote, Text.doubleQuote, List.flatMap_map]

/-- A quoted string is read as its text. -/
theorem scanFrom?_quote {before : List Token} (s : String) (rest : List Char) :
    scanFrom? before ((quote s).toList ++ rest) = scanFrom? (.atom (.str s) :: before) rest := by
  refine scanFrom?_append _ rest ?_
  have hopen : Scanner.step ⟨.between, before⟩ Text.doubleQuote
      = some ⟨.text (.ofChars []), before⟩ := rfl
  have hclose : Scanner.step ⟨.text (.ofChars s.toList), before⟩ Text.doubleQuote
      = some ⟨.between, .atom (.str s) :: before⟩ := by
    simp [Scanner.step, Literal.value_ofChars]
  rw [toList_quote, List.foldlM_cons, hopen, Option.bind_eq_bind, Option.bind_some,
    foldlM_append_of_some (foldlM_escaped [] s.toList), List.nil_append, List.foldlM_cons, hclose]
  rfl

/-! ### Numbers -/

/-- A digit goes on with any word. -/
theorem endsWord_of_isDigit {c : Char} (h : c.isDigit = true) : Scanner.endsWord c = false := by
  have hmark : ofMark? c = none := by
    unfold ofMark?
    split
    case h_7 => rfl
    all_goals exact absurd h (by decide)
  rw [Bool.eq_false_iff]
  intro hend
  simp only [Scanner.endsWord, isGap, hmark, Bool.or_eq_true, decide_eq_true_eq, Option.isSome_none,
    Bool.false_eq_true, or_false] at hend
  obtain (((rfl | rfl) | rfl) | rfl) | rfl := hend
  all_goals exact absurd h (by decide)

/-- The digits of a number other than zero do not start with a zero. -/
theorem head?_toDigits {n : Nat} (h : n ≠ 0) : (Nat.toDigits 10 n).head? ≠ some '0' := by
  induction n using Nat.strongRecOn with
  | _ n ih =>
    rw [Nat.toDigits_eq_if (by decide)]
    split
    · next hlt =>
      have hdigit : ∀ m < 10, m ≠ 0 → Nat.digitChar m ≠ '0' := by decide
      simpa using hdigit n hlt h
    · have hmore := ih (n / 10) (by omega) (by omega)
      rwa [List.head?_append_of_ne_nil _ Nat.toDigits_ne_nil]

/-- The digits of a number are read as the number. -/
theorem natOfDigits_toDigits (n : Nat) : Text.natOfDigits (Nat.toDigits 10 n) = n := by
  have hfold : Text.natOfDigits (Nat.toDigits 10 n) = Nat.ofDigitChars 10 (Nat.toDigits 10 n) 0 := by
    rw [Nat.ofDigitChars_eq_foldl, Text.natOfDigits]
    congr 1
    funext m c
    rw [Nat.mul_comm]
    rfl
  rw [hfold, Nat.ofDigitChars_ten_toDigits]

/-- A run of digits without a leading zero is a whole number. -/
theorem read?_of_digits {ds : List Char} (hdigit : ∀ c ∈ ds, c.isDigit = true) (hne : ds ≠ [])
    (hzero : ds.head? = some '0' → ds.length = 1) :
    NumberLiteral.read? ds = some ⟨false, ds, none, none⟩ := by
  have hsign : ∀ rest, ds = '-' :: rest → False := by
    rintro rest rfl
    have hminus := hdigit '-' List.mem_cons_self
    exact absurd hminus (by decide)
  have htake : ds.takeWhile Char.isDigit = ds := List.takeWhile_eq_self_iff.mpr hdigit
  have hdrop : ds.dropWhile Char.isDigit = [] := List.dropWhile_eq_nil_iff.mpr hdigit
  have hwhole : (ds.isEmpty || (ds.head? == some '0' && ds.length != 1)) = false := by
    simpa [hne] using hzero
  rw [NumberLiteral.read?]
  · simp only [htake, hdrop, hwhole]
    rfl
  · exact hsign

/-- The decimal form of a number is a word for it. -/
theorem ofWord?_repr (n : Nat) : ofWord? n.repr.toList = some (.nat n) := by
  have hdigit : ∀ c ∈ Nat.toDigits 10 n, c.isDigit = true := fun c hc =>
    Nat.isDigit_of_mem_toDigits (by decide) (by decide) hc
  have hzero : (Nat.toDigits 10 n).head? = some '0' → (Nat.toDigits 10 n).length = 1 := by
    intro hhead
    by_cases hn : n = 0
    · rw [hn, Nat.toDigits_zero]
      rfl
    · exact absurd hhead (head?_toDigits hn)
  have hword : ∀ w : List Char, w.head?.any Char.isDigit = false → Nat.toDigits 10 n ≠ w := by
    rintro w hw rfl
    obtain ⟨c, cs, hcs⟩ := List.exists_cons_of_ne_nil (Nat.toDigits_ne_nil (n := n) (b := 10))
    rw [hcs, List.head?_cons, Option.any_some,
      hdigit c (by rw [hcs]; exact List.mem_cons_self)] at hw
    cases hw
  rw [Nat.toList_repr, ofWord?, if_neg (hword _ rfl), if_neg (hword _ rfl), if_neg (hword _ rfl),
    ofNumber?, read?_of_digits hdigit Nat.toDigits_ne_nil hzero]
  simp [natOfDigits_toDigits]

/-! ## Pieces of text -/

/-- A text that adds the given lexemes, whatever comes after it. -/
def Closed (cs : List Char) (ts : List Token) : Prop :=
  ∀ before rest, scanFrom? before (cs ++ rest) = scanFrom? (ts.reverse ++ before) rest

/-- A text that adds the given lexemes, unless what comes after it goes on with its last word. -/
def Spells (cs : List Char) (ts : List Token) : Prop :=
  ∀ before rest, Breaks rest → scanFrom? before (cs ++ rest) = scanFrom? (ts.reverse ++ before) rest

/-- A mark with blanks on both sides. -/
structure Punctuates (cs : List Char) (t : Token) : Prop where
  spaced : ∃ left c right, cs = left ++ c :: right ∧ ofMark? c = some t
    ∧ (∀ x ∈ left, isGap x = true) ∧ ∀ x ∈ right, isGap x = true

variable {as bs : List Char} {ts us : List Token} {t : Token}

/-- What needs nothing behind it spells the same with something behind it. -/
theorem Closed.spells (h : Closed as ts) : Spells as ts := fun before rest _ => h before rest

/-- The lexemes of a whole text. -/
theorem Spells.scan?_eq (h : Spells as ts) : scan? as = some ts := by
  have hall := h [] [] breaks_nil
  rw [List.append_nil, List.append_nil, scanFrom?_nil, List.reverse_reverse] at hall
  exact hall

/-- The empty text spells nothing. -/
theorem closed_nil : Closed [] [] := fun _ _ => rfl

/-- Texts that close themselves may be put together. -/
theorem Closed.append (ha : Closed as ts) (hb : Closed bs us) : Closed (as ++ bs) (ts ++ us) := by
  intro before rest
  rw [List.append_assoc, ha, hb, List.reverse_append, List.append_assoc]

/-- Of texts that are put together, the last may be open. -/
theorem Closed.append_spells (ha : Closed as ts) (hb : Spells bs us) :
    Spells (as ++ bs) (ts ++ us) := by
  intro before rest hrest
  rw [List.append_assoc, ha, hb _ _ hrest, List.reverse_append, List.append_assoc]

/-- Gaps spell nothing. -/
theorem closed_gaps (h : ∀ x ∈ as, isGap x = true) : Closed as [] := by
  intro before rest
  induction as with
  | nil => rfl
  | cons c as ih =>
    rw [List.cons_append, scanFrom?_gap _ (h c List.mem_cons_self)]
    exact ih fun x hx => h x (List.mem_cons_of_mem c hx)

/-- A quoted text ends by its own quotation mark. -/
theorem closed_quote (s : String) : Closed (quote s).toList [.atom (.str s)] :=
  fun _ rest => scanFrom?_quote s rest

/-- A word spells its value, but has to be ended by what follows. -/
theorem spells_word {w : List Char} {v : Json} (hv : ofWord? w = some v) (hne : w ≠ [])
    (hw : w.any Scanner.endsWord = false) : Spells w [.atom v] := by
  intro before rest hrest
  rw [List.any_eq_false] at hw
  exact scanFrom?_word hv hne (fun c hc => Bool.eq_false_iff.mpr (hw c hc)) hrest

/-- A number is such a word. -/
theorem spells_repr (n : Nat) : Spells n.repr.toList [.atom (.nat n)] := by
  refine spells_word (ofWord?_repr n) ?_ ?_
  · rw [Nat.toList_repr]
    exact Nat.toDigits_ne_nil
  · rw [Nat.toList_repr, List.any_eq_false]
    intro c hc
    have hdigit : c.isDigit = true := Nat.isDigit_of_mem_toDigits (by decide) (by decide) hc
    rw [endsWord_of_isDigit hdigit]
    decide

namespace Punctuates

/-- A mark ends by itself. -/
theorem closed (h : Punctuates as t) : Closed as [t] := by
  obtain ⟨left, c, right, rfl, hmark, hleft, hright⟩ := h.spaced
  have hc : Closed [c] [t] := fun _ rest => scanFrom?_mark rest hmark
  exact (closed_gaps hleft).append (hc.append (closed_gaps hright))

/-- A mark ends every word. -/
theorem breaks (h : Punctuates as t) (rest : List Char) : Breaks (as ++ rest) := by
  obtain ⟨left, c, right, rfl, hmark, hleft, -⟩ := h.spaced
  intro x hx
  cases left with
  | nil =>
    obtain rfl : c = x := Option.some.inj hx
    simp [Scanner.endsWord, hmark]
  | cons y left =>
    obtain rfl : y = x := Option.some.inj hx
    simp [Scanner.endsWord, hleft y List.mem_cons_self]

end Punctuates

/-- A mark ends the word before it. -/
theorem Spells.append_mark (ha : Spells as ts) (hb : Punctuates bs t) :
    Closed (as ++ bs) (ts ++ [t]) := by
  intro before rest
  rw [List.append_assoc, ha _ _ (hb.breaks rest), hb.closed, List.reverse_append,
    List.append_assoc]

section Lists

variable {α : Type} {text : α → List Char} {lexemes : α → List Token} {separator : List Char}

/-- Pieces with commas between them. -/
theorem spells_intercalate (hseparator : Punctuates separator .comma) {xs : List α}
    (h : ∀ x ∈ xs, Spells (text x) (lexemes x)) :
    Spells (separator.intercalate (xs.map text)) ([.comma].intercalate (xs.map lexemes)) := by
  induction xs with
  | nil => exact closed_nil.spells
  | cons x xs ih =>
    have hx := h x List.mem_cons_self
    have hxs := ih fun y hy => h y (List.mem_cons_of_mem x hy)
    cases xs with
    | nil => simpa only [List.map_cons, List.map_nil, List.intercalate_singleton] using hx
    | cons y xs =>
      simp only [List.map_cons, List.intercalate_cons_cons] at hxs ⊢
      exact (hx.append_mark hseparator).append_spells hxs

/-- Pieces with commas between them and brackets around them. -/
theorem closed_bracketed {opening closing : List Char} {t t' : Token}
    (hopening : Punctuates opening t) (hclosing : Punctuates closing t')
    (hseparator : Punctuates separator .comma) {xs : List α}
    (h : ∀ x ∈ xs, Spells (text x) (lexemes x)) :
    Closed (opening ++ separator.intercalate (xs.map text) ++ closing)
      (t :: ([.comma].intercalate (xs.map lexemes) ++ [t'])) :=
  (hopening.closed.append_spells (spells_intercalate hseparator h)).append_mark hclosing

end Lists

end Json.Token

end Signpost
