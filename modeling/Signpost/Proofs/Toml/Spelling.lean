/-
`Proofs/Toml/Spelling.lean` -- texts that spell TOML lexemes.

Between two lexemes the whole state of the scanner is the list of those it has found, so reading on
from there is a function of the list and the rest of the text, `scanFrom?`, and a piece of text is
told by what it adds to the list. Marks, blanks and line ends are `Closed`: they add their lexemes
whatever comes after them. A word has no end of its own, and a string that is just two quotes might
be the start of three: such a piece only `Spells` its lexemes, and what follows it has to end them.

Line ends are made alike before a text is scanned, and a leading mark of the byte order is dropped.
Neither concerns a text that `scanFrom?` reads: the scanner has no place for a carriage return, nor
for that mark outside a string.
-/
import Signpost.Toml.Reader
import Signpost.Proofs.Json.Spelling

set_option autoImplicit false

namespace Signpost.Toml.Token

/-! ## Reading on -/

/-- The lexemes of a text whose first part has been read, given those of that part, last first. -/
def scanFrom? (before : List Token) (cs : List Char) : Option (List Token) :=
  cs.foldlM Scanner.step ⟨.between, before⟩ >>= Scanner.finish?

/-- Reading on after a part that is read to its end. -/
theorem scanFrom?_append {before after : List Token} (cs rest : List Char)
    (h : cs.foldlM Scanner.step ⟨.between, before⟩ = some ⟨.between, after⟩) :
    scanFrom? before (cs ++ rest) = scanFrom? after rest := by
  rw [scanFrom?, foldlM_append_of_some h, scanFrom?]

/-- Whether a character goes on with no word and with no string. -/
def endsLexeme (c : Char) : Bool :=
  !isWordChar c && c ≠ Text.doubleQuote && c ≠ Text.singleQuote

/-- What follows a word or a string without going on with it. -/
def Breaks (rest : List Char) : Prop := rest.head?.any endsLexeme = true

/-- A text that adds the given lexemes, whatever comes after it. -/
structure Closed (cs : List Char) (ts : List Token) : Prop where
  adds : ∀ before rest, scanFrom? before (cs ++ rest) = scanFrom? (ts.reverse ++ before) rest
  noReturn : '\r' ∉ cs

/-- A text that adds the given lexemes, unless what comes after it goes on with the last of them. -/
structure Spells (cs : List Char) (ts : List Token) : Prop where
  adds : ∀ before rest, Breaks rest →
    scanFrom? before (cs ++ rest) = scanFrom? (ts.reverse ++ before) rest
  noReturn : '\r' ∉ cs

/-- A piece is spelled if, in the mode that it leaves, whatever ends it is read as it would be after
the lexemes of the piece. -/
theorem scanFrom?_of_mode {before after : List Token} {mode : Mode} {cs rest : List Char}
    (h : cs.foldlM Scanner.step ⟨.between, before⟩ = some ⟨mode, before⟩)
    (hend : ∀ c, endsLexeme c = true →
      Scanner.step ⟨mode, before⟩ c = Scanner.step ⟨.between, after⟩ c) (hrest : Breaks rest) :
    scanFrom? before (cs ++ rest) = scanFrom? after rest := by
  cases rest with
  | nil => cases hrest
  | cons c rest =>
    have hc : endsLexeme c = true := by simpa [Breaks] using hrest
    rw [scanFrom?, foldlM_append_of_some h, scanFrom?, List.foldlM_cons, List.foldlM_cons,
      hend c hc]

/-! ## Words -/

/-- A word collects its characters until one comes that is no part of words. -/
theorem foldlM_word {before : List Token} {read cs : List Char}
    (h : ∀ c ∈ cs, isWordChar c = true) :
    cs.foldlM Scanner.step ⟨.word read, before⟩ = some ⟨.word (cs.reverse ++ read), before⟩ := by
  induction cs generalizing read with
  | nil => rfl
  | cons c cs ih =>
    have hc : Scanner.step ⟨.word read, before⟩ c = some ⟨.word (c :: read), before⟩ := by
      simp [Scanner.step, h c List.mem_cons_self]
    rw [List.foldlM_cons, hc, Option.bind_eq_bind, Option.bind_some,
      ih fun x hx => h x (List.mem_cons_of_mem c hx), List.reverse_cons, List.append_assoc,
      List.singleton_append]

/-- A character of a word is none that cannot be in one. -/
theorem ne_of_isWordChar {c x : Char} (h : isWordChar c = true) (hx : isWordChar x = false) :
    c ≠ x := by
  rintro rfl
  rw [h] at hx
  cases hx

/-- No mark is part of a word. -/
theorem isMark_of_isWordChar {c : Char} (h : isWordChar c = true) : isMark c = false := by
  have hne : ∀ x, isWordChar x = false → c ≠ x := fun x => ne_of_isWordChar h
  simp [isMark, hne '=' (by decide), hne '.' (by decide), hne ',' (by decide), hne '[' (by decide),
    hne ']' (by decide), hne '\x7b' (by decide), hne '\x7d' (by decide)]

/-- A run of word characters is one word. -/
theorem spells_word {w : List Char} (hne : w ≠ []) (hw : ∀ c ∈ w, isWordChar c = true) :
    Spells w [.word w] where
  adds := by
    intro before rest hrest
    obtain ⟨c, cs, rfl⟩ := List.exists_cons_of_ne_nil hne
    have hc := hw c List.mem_cons_self
    have hother : ∀ x, isWordChar x = false → c ≠ x := fun x => ne_of_isWordChar hc
    have hfirst : Scanner.step ⟨.between, before⟩ c = some ⟨.word [c], before⟩ := by
      simp [Scanner.step, Scanner.outside, hc, isMark_of_isWordChar hc, hother ' ' (by decide),
        hother '\t' (by decide), hother '\n' (by decide), hother '#' (by decide),
        hother Text.doubleQuote (by decide), hother Text.singleQuote (by decide)]
    have hword : (c :: cs).foldlM Scanner.step ⟨.between, before⟩
        = some ⟨.word (c :: cs).reverse, before⟩ := by
      rw [List.foldlM_cons, hfirst, Option.bind_eq_bind, Option.bind_some,
        foldlM_word fun x hx => hw x (List.mem_cons_of_mem c hx), List.reverse_cons]
    refine scanFrom?_of_mode hword ?_ hrest
    intro x hx
    have hend : isWordChar x = false := by
      simp only [endsLexeme, Bool.and_eq_true, Bool.not_eq_true'] at hx
      exact hx.1.1
    simp [Scanner.step, hend, Scanner.emit]
  noReturn := fun hmem => absurd (hw _ hmem) (by decide)

/-! ## Pieces of text -/

section Pieces

variable {as bs : List Char} {ts us : List Token}

/-- The empty text spells nothing. -/
theorem closed_nil : Closed [] [] := ⟨fun _ _ => rfl, List.not_mem_nil⟩

/-- What needs nothing behind it spells the same with something behind it. -/
theorem Closed.spells (h : Closed as ts) : Spells as ts :=
  ⟨fun before rest _ => h.adds before rest, h.noReturn⟩

/-- Texts that close themselves may be put together. -/
theorem Closed.append (ha : Closed as ts) (hb : Closed bs us) : Closed (as ++ bs) (ts ++ us) where
  adds := by
    intro before rest
    rw [List.append_assoc, ha.adds, hb.adds, List.reverse_append, List.append_assoc]
  noReturn := List.not_mem_append ha.noReturn hb.noReturn

/-- A piece and one that ends it make up a closed one. -/
theorem Spells.append (ha : Spells as ts) (hb : Closed bs us) (hbreaks : Breaks bs) :
    Closed (as ++ bs) (ts ++ us) where
  adds := by
    intro before rest
    have hrest : Breaks (bs ++ rest) := by
      cases bs with
      | nil => cases hbreaks
      | cons c bs => exact hbreaks
    rw [List.append_assoc, ha.adds _ _ hrest, hb.adds, List.reverse_append, List.append_assoc]
  noReturn := List.not_mem_append ha.noReturn hb.noReturn

/-- A character that is a lexeme by itself. -/
theorem closed_char {c : Char} {t : Token}
    (h : ∀ before, Scanner.step ⟨.between, before⟩ c = some ⟨.between, t :: before⟩) :
    Closed [c] [t] where
  adds := by
    intro before rest
    refine scanFrom?_append [c] rest ?_
    rw [List.foldlM_cons, h]
    rfl
  noReturn := by
    intro hmem
    obtain rfl := List.mem_singleton.mp hmem
    cases h []

theorem closed_newline : Closed ['\n'] [.newline] := closed_char fun _ => rfl

theorem closed_space : Closed [' '] [.gap ' '] := closed_char fun _ => rfl

theorem closed_open : Closed ['['] [.mark '['] := closed_char fun _ => rfl

theorem closed_close : Closed [']'] [.mark ']'] := closed_char fun _ => rfl

/-- Closed pieces with line ends between them. -/
theorem closed_intercalate {α : Type} {text : α → List Char} {lexemes : α → List Token}
    {xs : List α} (h : ∀ x ∈ xs, Closed (text x) (lexemes x)) :
    Closed (['\n'].intercalate (xs.map text)) ([.newline].intercalate (xs.map lexemes)) := by
  induction xs with
  | nil => exact closed_nil
  | cons x xs ih =>
    have hx := h x List.mem_cons_self
    have hxs := ih fun y hy => h y (List.mem_cons_of_mem x hy)
    cases xs with
    | nil => simpa only [List.map_cons, List.map_nil, List.intercalate_singleton] using hx
    | cons y xs =>
      simp only [List.map_cons, List.intercalate_cons_cons] at hxs ⊢
      exact (hx.append closed_newline).append hxs

/-- Closed pieces one after the other. -/
theorem closed_flatMap {α : Type} {text : α → List Char} {lexemes : α → List Token}
    {xs : List α} (h : ∀ x ∈ xs, Closed (text x) (lexemes x)) :
    Closed (xs.flatMap text) (xs.flatMap lexemes) := by
  induction xs with
  | nil => exact closed_nil
  | cons x xs ih =>
    rw [List.flatMap_cons, List.flatMap_cons]
    exact (h x List.mem_cons_self).append (ih fun y hy => h y (List.mem_cons_of_mem x hy))

end Pieces

/-! ## Whole texts -/

/-- A text without carriage returns has its line ends as they should be. -/
theorem unixLines?_of_notMem {cs : List Char} (h : '\r' ∉ cs) : unixLines? cs = some cs := by
  induction cs with
  | nil => rfl
  | cons c cs ih =>
    obtain ⟨hc, hcs⟩ : c ≠ '\r' ∧ '\r' ∉ cs := by
      simpa [eq_comm] using h
    rw [unixLines?, if_neg hc, ih hcs, Option.map_some]
    rintro rest rfl -
    exact hc rfl

/-- The lexemes of a whole text. -/
theorem Closed.scan?_eq {cs : List Char} {ts : List Token} (h : Closed cs ts) :
    scan? (Text.dropOneChars byteOrderMark cs) = some ts := by
  have hscan : scanFrom? [] cs = some ts := by
    have hall := h.adds [] []
    rw [List.append_nil, List.append_nil] at hall
    rw [hall]
    exact congrArg some (List.reverse_reverse ts)
  have hself : Text.dropOneChars byteOrderMark cs = cs := by
    cases cs with
    | nil => rfl
    | cons c cs =>
      rw [Text.dropOneChars, if_neg]
      rintro rfl
      cases hscan
  rw [hself, scan?, unixLines?_of_notMem h.noReturn]
  exact hscan

end Signpost.Toml.Token
