/-
`Proofs/Toml/Value.lean` -- values that read back.

The value of a setting is a truth value, a whole number, a string, or an array of these. All but the
arrays are single lexemes; an array of several items stands on as many lines, each with blanks in
front and a comma behind. What the reader makes of the lexemes depends on where they stand only
through what it does with the value, so reading a value and the lexeme after it comes to
`afterValue` (`Reads`), and for a whole statement to `commit` (`Assigns`). Printing spells those
lexemes.
-/
import Signpost.Proofs.Toml.Quoted

set_option autoImplicit false

namespace Signpost.Toml

/-! ## Numbers -/

section Digits

variable {ds : List Char}

/-- What is left after two digits is a part of the text. -/
theorem subset_of_twoDigits? {low high n : Nat} {cs rest : List Char}
    (h : twoDigits? low high cs = some (n, rest)) : rest ⊆ cs := by
  match cs, h with
  | a :: b :: tail, h =>
    simp only [twoDigits?, Option.ite_none_right_eq_some, Option.some.injEq, Prod.mk.injEq] at h
    obtain ⟨-, -, rfl⟩ := h
    exact List.Subset.trans (List.subset_cons_self b tail) (List.subset_cons_self a _)

/-- No mark can follow in a run of digits. -/
theorem afterChar?_of_digits {c : Char} (hc : c.isDigit = false) (h : ∀ d ∈ ds, d.isDigit = true) :
    afterChar? c ds = none := by
  cases ds with
  | nil => rfl
  | cons d ds =>
    rw [afterChar?, if_neg]
    rintro rfl
    rw [h d List.mem_cons_self] at hc
    cases hc

/-- Digits alone are no date and no time. -/
theorem isDateTime_of_digits (h : ∀ d ∈ ds, d.isDigit = true) : isDateTime ds = false := by
  have hdate : afterDate? ds = none := by
    unfold afterDate?
    cases hfirst : twoDigits? 0 99 ds with
    | none => rfl
    | some first =>
      have hfirst' := subset_of_twoDigits? hfirst
      simp only [Option.bind_eq_bind, Option.bind_some]
      cases hsecond : twoDigits? 0 99 first.2 with
      | none => rfl
      | some second =>
        have hsecond' := List.Subset.trans (subset_of_twoDigits? hsecond) hfirst'
        simp only [Option.bind_some, afterChar?_of_digits (c := '-') rfl fun d hd =>
          h d (hsecond' hd), Option.bind_none]
  have htime : afterTime? ds = none := by
    unfold afterTime?
    cases hfirst : twoDigits? 0 23 ds with
    | none => rfl
    | some first =>
      have hfirst' := subset_of_twoDigits? hfirst
      simp only [Option.bind_eq_bind, Option.bind_some, afterChar?_of_digits (c := ':') rfl
        fun d hd => h d (hfirst' hd), Option.bind_none]
  rw [isDateTime, hdate, htime]
  rfl

/-- Digits without underscores between them are a run of digits. -/
theorem digitRun?_of_digits (hne : ds ≠ []) (h : ∀ d ∈ ds, d.isDigit = true) :
    digitRun? Char.isDigit ds = some ds := by
  induction ds with
  | nil => exact absurd rfl hne
  | cons c ds ih =>
    have hc := h c List.mem_cons_self
    cases ds with
    | nil => simp [digitRun?, hc]
    | cons d ds =>
      have htail : ∀ x ∈ d :: ds, x.isDigit = true := fun x hx => h x (List.mem_cons_of_mem c hx)
      have hgroup : ∀ rest, d :: ds ≠ '_' :: rest := by
        rintro rest ⟨⟩
        exact absurd (htail '_' List.mem_cons_self) (by decide)
      rw [digitRun?, if_pos hc, ih (List.cons_ne_nil d ds) htail, Option.map_some]
      · exact List.cons_ne_nil d ds
      · exact hgroup

/-- In base 10 a run of digits is the number that they write. -/
theorem ofDigits_ten (h : ∀ d ∈ ds, d.isDigit = true) : ofDigits 10 ds = Text.natOfDigits ds := by
  refine List.foldl_ext _ _ 0 fun n d hd => ?_
  simp [Json.Token.hexDigit?, h d hd]

/-- A run of digits without a leading zero is a whole number. -/
theorem integer?_of_digits (hne : ds ≠ []) (h : ∀ d ∈ ds, d.isDigit = true)
    (hzero : ds.head? = some '0' → ds = ['0']) :
    integer? ds = int64? (Text.natOfDigits ds) := by
  have hwhole : wholePart? ds = some ds := by
    rw [wholePart?, if_neg fun hbad => hbad.2 (hzero hbad.1), digitRun?_of_digits hne h]
  have hsigned : signed ds = (false, ds) := by
    unfold signed
    split
    · exact absurd (h '-' List.mem_cons_self) (by decide)
    · exact absurd (h '+' List.mem_cons_self) (by decide)
    · rfl
  unfold integer?
  split
  · exact absurd (h 'x' (by simp)) (by decide)
  · exact absurd (h 'o' (by simp)) (by decide)
  · exact absurd (h 'b' (by simp)) (by decide)
  · rw [hsigned]
    change (wholePart? ds).bind _ = _
    rw [hwhole, Option.bind_some, ofDigits_ten h]
    rfl

end Digits

/-- The decimal form of a number that 64 bits with a sign can hold is a word for it. -/
theorem ofWord?_repr {n : Nat} (h : n < 0x8000000000000000) :
    ofWord? n.repr.toList = some (.int n) := by
  have hdigit : ∀ c ∈ Nat.toDigits 10 n, c.isDigit = true := fun c hc =>
    Nat.isDigit_of_mem_toDigits (by decide) (by decide) hc
  have hzero : (Nat.toDigits 10 n).head? = some '0' → Nat.toDigits 10 n = ['0'] := by
    intro hhead
    by_cases hn : n = 0
    · rw [hn, Nat.toDigits_zero]
    · exact absurd hhead (Json.Token.head?_toDigits hn)
  have hword : ∀ w : List Char, w.any Char.isDigit = false → Nat.toDigits 10 n ≠ w := by
    rintro w hw rfl
    obtain ⟨c, hc⟩ := List.exists_mem_of_ne_nil _ (Nat.toDigits_ne_nil (n := n) (b := 10))
    exact List.any_eq_false.mp hw c hc (hdigit c hc)
  have hint : int64? (n : Int) = some (.int n) := by
    rw [int64?, if_pos]
    omega
  rw [Nat.toList_repr, ofWord?, if_neg (hword _ rfl), if_neg (hword _ rfl),
    isDateTime_of_digits hdigit, integer?_of_digits Nat.toDigits_ne_nil hdigit hzero,
    Json.Token.natOfDigits_toDigits, hint]
  rfl

/-! ## Values -/

namespace Reader

/-- The lexemes that may follow a value. -/
inductive Ends : Token → Prop
  | newline : Ends .newline
  | comma : Ends (.mark ',')
  | bracket : Ends (.mark ']')

/-- What follows a value is read alike in whatever phase the value was read. -/
theorem afterValue_phase (r : Reader) (phase : Phase) (v : Toml) {t : Token} (ht : Ends t) :
    afterValue { r with phase := phase } v t = r.afterValue v t := by
  obtain ⟨_, stack, _, _, _⟩ := r
  cases ht with
  | newline =>
    match stack with
    | [] => rfl
    | .array _ :: _ => rfl
    | .inline _ _ _ :: _ => rfl
  | comma =>
    match stack with
    | [] => rfl
    | .array _ :: _ => rfl
    | .inline _ _ _ :: _ => rfl
  | bracket =>
    match stack with
    | [] => rfl
    | .array _ :: _ => rfl
    | .inline _ _ _ :: _ => rfl

/-- Lexemes that are read as a value wherever one may stand. -/
def Reads (ts : List Token) (v : Toml) : Prop :=
  ∀ (r : Reader) (t : Token), r.phase = .value ∨ r.phase = .valueOrEnd → Ends t →
    (ts ++ [t]).foldlM step r = r.afterValue v t

/-- A lexeme that starts a value is read alike in both phases. -/
theorem step_openValue {r : Reader} (hphase : r.phase = .value ∨ r.phase = .valueOrEnd) {t : Token}
    (ht : t ≠ .mark ']') : r.step t = r.openValue t := by
  obtain ⟨phase, _, _, _, _⟩ := r
  rcases hphase with rfl | rfl
  · rfl
  · unfold step
    split <;> simp_all

/-- A word is read as its value. -/
theorem reads_word {w : List Char} {v : Toml} (h : ofWord? w = some v) : Reads [.word w] v := by
  intro r t hphase ht
  have hopen : r.step (.word w) = some { r with phase := .word w } := by
    rw [step_openValue hphase (by nofun)]
    rfl
  have hend : step { r with phase := .word w } t = r.afterValue v t := by
    have hword : step { r with phase := .word w } t = endWord { r with phase := .word w } w t := by
      cases ht <;> rfl
    rw [hword, endWord, h, Option.bind_some, afterValue_phase r (.word w) v ht]
  rw [List.singleton_append, List.foldlM_cons, hopen, Option.bind_eq_bind, Option.bind_some,
    List.foldlM_cons, hend]
  cases r.afterValue v t <;> rfl

/-- A string is read as its text, in whatever form it was written. -/
theorem reads_string (s : String) : Reads [.ofString s] (.text s) := by
  intro r t hphase ht
  have hopen : r.step (.ofString s) = some { r with phase := .after (.text s) } := by
    unfold Token.ofString
    split <;> exact step_openValue hphase (by nofun)
  have hend : step { r with phase := .after (.text s) } t = r.afterValue (.text s) t :=
    afterValue_phase r _ _ ht
  rw [List.singleton_append, List.foldlM_cons, hopen, Option.bind_eq_bind, Option.bind_some,
    List.foldlM_cons, hend]
  cases r.afterValue (.text s) t <;> rfl

end Reader

/-- The values that are written on one line and in one piece. -/
inductive Scalar : Toml → Prop
  | bool (b : Bool) : Scalar (.bool b)
  | nat {n : Nat} (h : n < 0x8000000000000000) : Scalar (.int n)
  | text (s : String) : Scalar (.text s)

/-- The lexemes of a value that is written in one piece. -/
def scalarTokens : Toml → List Token
  | .text s => [.ofString s]
  | v => [.word (inline v).toList]

/-- A number that is not negative is written without a sign. -/
theorem inline_nat (n : Nat) : inline (.int n) = n.repr := by
  rw [inline, if_pos (Int.natCast_nonneg n), Int.toNat_natCast]

namespace Scalar

variable {v : Toml}

/-- A scalar is read back from its lexeme. -/
theorem reads (h : Scalar v) : Reader.Reads (scalarTokens v) v := by
  cases h with
  | bool b =>
    cases b with
    | true => exact Reader.reads_word rfl
    | false => exact Reader.reads_word rfl
  | @nat n h =>
    refine Reader.reads_word ?_
    rw [inline_nat, ofWord?_repr h]
  | text s => exact Reader.reads_string s

/-- What is printed of a scalar spells that lexeme. -/
theorem spells (h : Scalar v) : Token.Spells (inline v).toList (scalarTokens v) := by
  cases h with
  | bool b =>
    cases b with
    | true => exact Token.spells_word (by decide) (List.all_eq_true.mp rfl)
    | false => exact Token.spells_word (by decide) (List.all_eq_true.mp rfl)
  | @nat n h =>
    rw [scalarTokens, inline_nat, Nat.toList_repr]
    · refine Token.spells_word Nat.toDigits_ne_nil fun c hc => ?_
      have hdigit : c.isDigit = true := Nat.isDigit_of_mem_toDigits (by decide) (by decide) hc
      simp [Token.isWordChar, Char.isAlphanum, hdigit]
    · nofun
  | text s =>
    rw [inline]
    exact Token.spells_quote s

end Scalar

/-! ### Arrays -/

/-- The lexemes of an item on a line of its own. -/
def itemTokens (v : Toml) : List Token :=
  List.replicate 4 (.gap ' ') ++ scalarTokens v ++ [.mark ',', .newline]

/-- The values of entries that are no tables. -/
inductive Simple : Toml → Prop
  | scalar {v : Toml} (h : Scalar v) : Simple v
  | array {items : List Toml} (h : ∀ v ∈ items, Scalar v) : Simple (.array items)

/-- The lexemes of a value after its key. -/
def valueTokens : Toml → List Token
  | .array [] => [.mark '[', .mark ']']
  | .array [v] => .mark '[' :: scalarTokens v ++ [.mark ']']
  | .array items => .mark '[' :: .newline :: items.flatMap itemTokens ++ [.mark ']']
  | v => scalarTokens v

namespace Reader

/-- Lexemes that are read as the value of a statement. -/
def Assigns (ts : List Token) (v : Toml) : Prop :=
  ∀ r : Reader, r.phase = .value → r.stack = [] →
    (ts ++ [Token.newline]).foldlM step r = r.commit v

/-- A value on the rest of a line is assigned at the end of the line. -/
theorem Reads.assigns {ts : List Token} {v : Toml} (h : Reads ts v) : Assigns ts v := by
  intro r hphase hstack
  rw [h r .newline (.inl hphase) .newline]
  simp [afterValue, hstack]

/-- An array is the value of a statement once it is closed. -/
theorem assigns_of_foldlM {ts : List Token} {v : Toml}
    (h : ∀ entries current target, ts.foldlM step ⟨.value, [], entries, current, target⟩
      = some ⟨.after v, [], entries, current, target⟩) : Assigns ts v := by
  rintro ⟨_, _, entries, current, target⟩ ⟨⟩ ⟨⟩
  rw [foldlM_append_of_some (h entries current target), List.foldlM_cons]
  exact bind_pure _

section Arrays

variable {entries : Item.Entries} {current : List String} {target : List String × String}

/-- One line of an array. -/
theorem foldlM_itemTokens {v : Toml} (h : Scalar v) (done : List Toml) :
    (itemTokens v).foldlM step ⟨.valueOrEnd, [.array done], entries, current, target⟩
      = some ⟨.valueOrEnd, [.array (v :: done)], entries, current, target⟩ := by
  have hitem : (scalarTokens v ++ [Token.mark ',']).foldlM step
        ⟨.valueOrEnd, [.array done], entries, current, target⟩
      = some ⟨.valueOrEnd, [.array (v :: done)], entries, current, target⟩ :=
    h.reads _ _ (.inr rfl) .comma
  have hsplit : itemTokens v = List.replicate 4 (Token.gap ' ')
      ++ ((scalarTokens v ++ [Token.mark ',']) ++ [Token.newline]) := by
    simp [itemTokens]
  have hgaps : (List.replicate 4 (Token.gap ' ')).foldlM step
        ⟨.valueOrEnd, [.array done], entries, current, target⟩
      = some ⟨.valueOrEnd, [.array done], entries, current, target⟩ := rfl
  rw [hsplit, foldlM_append_of_some hgaps, foldlM_append_of_some hitem]
  rfl

/-- The items of an array are put on its stack one by one. -/
theorem foldlM_items {items : List Toml} (h : ∀ v ∈ items, Scalar v) (done : List Toml) :
    (items.flatMap itemTokens).foldlM step ⟨.valueOrEnd, [.array done], entries, current, target⟩
      = some ⟨.valueOrEnd, [.array (items.reverse ++ done)], entries, current, target⟩ := by
  induction items generalizing done with
  | nil => rfl
  | cons v items ih =>
    rw [List.flatMap_cons, foldlM_append_of_some (foldlM_itemTokens (h v List.mem_cons_self) done),
      ih (fun x hx => h x (List.mem_cons_of_mem v hx)), List.reverse_cons, List.append_assoc,
      List.singleton_append]

end Arrays

/-- An array with a line for each item is assigned as a whole. -/
theorem assigns_lines {items : List Toml} (h : ∀ v ∈ items, Scalar v) :
    Assigns (.mark '[' :: .newline :: items.flatMap itemTokens ++ [.mark ']']) (.array items) := by
  refine assigns_of_foldlM fun entries current target => ?_
  have hopen : [Token.mark '[', Token.newline].foldlM step ⟨.value, [], entries, current, target⟩
      = some ⟨.valueOrEnd, [.array []], entries, current, target⟩ := rfl
  have hclose : [Token.mark ']'].foldlM step
        ⟨.valueOrEnd, [.array (items.reverse ++ [])], entries, current, target⟩
      = some ⟨.after (.array (items.reverse ++ []).reverse), [], entries, current, target⟩ := rfl
  have hsplit : Token.mark '[' :: Token.newline :: items.flatMap itemTokens ++ [Token.mark ']']
      = [Token.mark '[', Token.newline] ++ (items.flatMap itemTokens ++ [Token.mark ']']) := rfl
  rw [hsplit, foldlM_append_of_some hopen, foldlM_append_of_some (foldlM_items h []), hclose,
    List.append_nil, List.reverse_reverse]

/-- An array of one item stands on one line. -/
theorem assigns_one {v : Toml} (h : Scalar v) :
    Assigns (.mark '[' :: scalarTokens v ++ [.mark ']']) (.array [v]) := by
  refine assigns_of_foldlM fun entries current target => ?_
  rw [List.cons_append, List.foldlM_cons]
  exact h.reads ⟨.valueOrEnd, [.array []], entries, current, target⟩ _ (.inr rfl) .bracket

end Reader

namespace Simple

variable {v : Toml}

/-- **The lexemes of a value are read as the value.** -/
theorem assigns (h : Simple v) : Reader.Assigns (valueTokens v) v := by
  cases h with
  | scalar h =>
    have htokens : valueTokens v = scalarTokens v := by cases h <;> rfl
    rw [htokens]
    exact h.reads.assigns
  | @array items h =>
    match items, h with
    | [], _ => exact Reader.assigns_of_foldlM fun _ _ _ => rfl
    | [v], h => exact Reader.assigns_one (h v List.mem_cons_self)
    | first :: second :: rest, h => exact Reader.assigns_lines h

/-- Items are printed one by one. -/
theorem inlineItems_eq_map (items : List Toml) : inlineItems items = items.map inline := by
  induction items with
  | nil => rfl
  | cons v rest ih => rw [inlineItems, ih, List.map_cons]

/-- The line of an item ends by its own line end. -/
theorem closed_itemTokens (h : Scalar v) :
    Token.Closed ("    " ++ inline v ++ ",\n").toList (itemTokens v) := by
  have hgaps : Token.Closed (List.replicate 4 ' ') (List.replicate 4 (.gap ' ')) :=
    Token.closed_space.append (Token.closed_space.append
      (Token.closed_space.append Token.closed_space))
  have hcomma : Token.Closed [',', '\n'] [.mark ',', .newline] :=
    (Token.closed_char fun _ => rfl).append Token.closed_newline
  rw [String.toList_append, String.toList_append, List.append_assoc, itemTokens, List.append_assoc]
  exact hgaps.append (h.spells.append hcomma rfl)

/-- **What is printed of a value spells its lexemes.** -/
theorem spells (h : Simple v) : Token.Spells (printValue v).toList (valueTokens v) := by
  cases h with
  | scalar h =>
    have htokens : valueTokens v = scalarTokens v := by cases h <;> rfl
    have hprint : printValue v = inline v := by cases h <;> rfl
    rw [htokens, hprint]
    exact h.spells
  | @array items h =>
    match items, h with
    | [], _ =>
      have hprint : (printValue (.array [])).toList = ['['] ++ [']'] := by decide +kernel
      rw [hprint]
      exact (Token.closed_open.append Token.closed_close).spells
    | [v], h =>
      have hprint : (printValue (.array [v])).toList = ['['] ++ ((inline v).toList ++ [']']) := by
        simp [printValue, inline, inlineItems]
      rw [hprint]
      have hitem := (h v List.mem_cons_self).spells.append Token.closed_close rfl
      exact (Token.closed_open.append hitem).spells
    | first :: second :: rest, h =>
      have hprint : (printValue (.array (first :: second :: rest))).toList
          = (['['] ++ ['\n']) ++ ((first :: second :: rest).flatMap fun v =>
            ("    " ++ inline v ++ ",\n").toList) ++ [']'] := by
        rw [printValue, inlineItems_eq_map]
        simp [List.flatMap_map]
      rw [hprint]
      have hopening := Token.closed_open.append Token.closed_newline
      have hitems := Token.closed_flatMap fun v hv => closed_itemTokens (h v hv)
      exact ((hopening.append hitems).append Token.closed_close).spells

end Simple

end Signpost.Toml
