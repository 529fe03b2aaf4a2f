/-
`Proofs/Json/RoundTrip.lean` -- printed values read back.

Between a value and its printed text stand the lexemes of the value, `tokens`. The reader builds the
value from them with a stack of what is still open, and both layouts of the printer spell them, one
without blanks and one with a line for every item and field. The two facts meet in `parse?_compact`
and `parse?_pretty`: whatever is printed is read back as it was.

All of this is about the values that a program writes, the plain ones. Their numbers are whole, and
no part of them is ill-formed.
-/
import Signpost.Json.Reader
import Signpost.Proofs.Json.Spelling

set_option autoImplicit false

namespace Signpost.Json

/-- The values that a program writes. -/
inductive Plain : Json → Prop
  | null : Plain .null
  | bool (b : Bool) : Plain (.bool b)
  | nat (n : Nat) : Plain (.nat n)
  | str (s : String) : Plain (.str s)
  | arr {items : List Json} (all : ∀ v ∈ items, Plain v) : Plain (.arr items)
  | obj {fields : List (String × Json)} (all : ∀ e ∈ fields, Plain e.2) : Plain (.obj fields)

mutual

/-- The lexemes of a value. -/
def tokens : Json → List Token
  | .arr items => .openBracket :: ([.comma].intercalate (itemTokens items) ++ [.closeBracket])
  | .obj fields => .openBrace :: ([.comma].intercalate (fieldTokens fields) ++ [.closeBrace])
  | v => [.atom v]

/-- The lexemes of each item. -/
def itemTokens : List Json → List (List Token)
  | [] => []
  | v :: rest => tokens v :: itemTokens rest

/-- The lexemes of each field. -/
def fieldTokens : List (String × Json) → List (List Token)
  | [] => []
  | (k, v) :: rest => (.atom (.str k) :: .colon :: tokens v) :: fieldTokens rest

end

/-- The lexemes of one field. -/
def tokensOfField (e : String × Json) : List Token := [.atom (.str e.1), .colon] ++ e.2.tokens

/-- The lexemes of items are those of each. -/
theorem itemTokens_eq_map (items : List Json) : itemTokens items = items.map tokens := by
  induction items with
  | nil => rfl
  | cons v rest ih => rw [itemTokens, ih, List.map_cons]

/-- The lexemes of fields are those of each. -/
theorem fieldTokens_eq_map (fields : List (String × Json)) :
    fieldTokens fields = fields.map tokensOfField := by
  induction fields with
  | nil => rfl
  | cons e rest ih =>
    rw [fieldTokens, ih, List.map_cons]
    rfl

/-! ## Reading lexemes -/

/-- Where the reader waits for a value. -/
def Expect.AwaitsValue (e : Expect) : Prop := e = .value ∨ e = .valueOrEnd

/-- Reading the lexemes of the value, wherever one is awaited, finishes the value and leaves what is
open as it was. -/
def BuiltBack (v : Json) : Prop :=
  ∀ (e : Expect) (stack : List Frame), e.AwaitsValue →
    v.tokens.foldlM Reader.step ⟨e, stack⟩ = some ⟨.follow v, stack⟩

/-- **Parts with commas between them.** If the reader takes in one part from the state in which it
waits for it, and a comma leads from there to waiting for the next one, then it takes in all of them.
The first part may be awaited in a state of its own. -/
theorem foldlM_separated {α : Type} (part : α → List Token) (closing : Token)
    (wait result : List α → Reader) (after : α → List α → Reader) (first : Reader) {xs : List α}
    (done : List α)
    (hfirst : ∀ a ∈ xs, (part a).foldlM Reader.step first = some (after a done))
    (hpart : ∀ a ∈ xs, ∀ done, (part a).foldlM Reader.step (wait done) = some (after a done))
    (hcomma : ∀ a done, (after a done).step .comma = some (wait (a :: done)))
    (hclosing : ∀ a done, (after a done).step closing = some (result (a :: done)))
    (hne : xs ≠ []) :
    ([Token.comma].intercalate (xs.map part) ++ [closing]).foldlM Reader.step first
      = some (result (xs.reverse ++ done)) := by
  induction xs generalizing first done with
  | nil => exact absurd rfl hne
  | cons a rest ih =>
    have ha := hfirst a List.mem_cons_self
    cases rest with
    | nil =>
      rw [List.map_singleton, List.intercalate_singleton, foldlM_append_of_some ha,
        List.foldlM_cons, hclosing]
      rfl
    | cons b rest =>
      have hrest := ih (wait (a :: done)) (a :: done)
        (fun x hx => hpart x (List.mem_cons_of_mem a hx) (a :: done))
        (fun x hx => hpart x (List.mem_cons_of_mem a hx)) (List.cons_ne_nil b rest)
      rw [List.map_cons, List.map_cons, List.intercalate_cons_cons, List.append_assoc,
        List.append_assoc, foldlM_append_of_some ha, List.singleton_append, List.foldlM_cons,
        hcomma, List.reverse_cons, List.append_assoc, List.singleton_append]
      exact hrest

/-- **The reader builds a value from its lexemes.** -/
theorem Plain.builtBack {v : Json} (h : Plain v) : BuiltBack v := by
  induction h with
  | null => rintro e stack (rfl | rfl) <;> rfl
  | bool b => rintro e stack (rfl | rfl) <;> rfl
  | nat n => rintro e stack (rfl | rfl) <;> rfl
  | str s => rintro e stack (rfl | rfl) <;> rfl
  | @arr items _ ih =>
    intro e stack he
    have hopen : Reader.step ⟨e, stack⟩ .openBracket = some ⟨.valueOrEnd, .array [] :: stack⟩ := by
      rcases he with rfl | rfl <;> rfl
    rw [tokens, itemTokens_eq_map, List.foldlM_cons, hopen]
    by_cases hne : items = []
    · rw [hne]
      rfl
    · -- the first item is awaited in a state of its own, in which the array might also end
      have hitems := foldlM_separated tokens .closeBracket
        (fun done => ⟨.value, .array done :: stack⟩)
        (fun done => ⟨.follow (.arr done.reverse), stack⟩)
        (fun v done => ⟨.follow v, .array done :: stack⟩) ⟨.valueOrEnd, .array [] :: stack⟩ []
        (fun v hv => ih v hv .valueOrEnd _ (.inr rfl)) (fun v hv _ => ih v hv .value _ (.inl rfl))
        (fun _ _ => rfl) (fun _ _ => rfl) hne
      rw [List.append_nil, List.reverse_reverse] at hitems
      exact hitems
  | @obj fields _ ih =>
    intro e stack he
    have hopen : Reader.step ⟨e, stack⟩ .openBrace
        = some ⟨.nameOrEnd, .object [] false :: stack⟩ := by
      rcases he with rfl | rfl <;> rfl
    rw [tokens, fieldTokens_eq_map, List.foldlM_cons, hopen]
    by_cases hne : fields = []
    · rw [hne]
      rfl
    · -- name and colon lead to where a value is awaited, so the induction takes over from there
      have hfields := foldlM_separated tokensOfField .closeBrace
        (fun done => ⟨.name, .object done false :: stack⟩)
        (fun done => ⟨.follow (.obj done.reverse), stack⟩)
        (fun f done => ⟨.follow f.2, .field done false f.1 :: stack⟩)
        ⟨.nameOrEnd, .object [] false :: stack⟩ []
        (fun f hf => ih f hf .value _ (.inl rfl)) (fun f hf _ => ih f hf .value _ (.inl rfl))
        (fun _ _ => rfl) (fun _ _ => rfl) hne
      rw [List.append_nil, List.reverse_reverse] at hfields
      exact hfields

/-- **A value is built again from its lexemes.** -/
theorem Plain.ofTokens?_tokens {v : Json} (h : Plain v) : ofTokens? v.tokens = some v := by
  rw [ofTokens?, Reader.start, h.builtBack _ _ (.inl rfl)]
  rfl

/-! ## Spelling values -/

section Layouts

open Token

/-- Blanks after a mark or before it do not keep it from being one. -/
theorem punctuates_mark {c : Char} {t : Token} (h : ofMark? c = some t) {blanks : List Char}
    (hblanks : ∀ x ∈ blanks, isGap x = true) :
    Punctuates (c :: blanks) t ∧ Punctuates (blanks ++ [c]) t := by
  have hnone : ∀ x ∈ ([] : List Char), isGap x = true := by simp
  exact ⟨⟨[], c, blanks, rfl, h, hnone, hblanks⟩, ⟨blanks, c, [], rfl, h, hblanks, hnone⟩⟩

/-- A mark alone. -/
theorem punctuates_alone {c : Char} {t : Token} (h : ofMark? c = some t) : Punctuates [c] t :=
  (punctuates_mark h (by simp)).1

/-- A line end with its indentation is a gap. -/
theorem isGap_of_mem_newline {level : Nat} {x : Char} (h : x ∈ (newline level).toList) :
    isGap x = true := by
  have hcases : x = '\n' ∨ x = ' ' := by
    simp only [newline, String.toList_append, String.toList_ofList, List.mem_append,
      List.mem_replicate] at h
    rcases h with h | h
    · left
      simpa using h
    · exact .inr h.2
  rcases hcases with rfl | rfl <;> rfl

/-- Items are printed one by one. -/
theorem compactItems_eq_map (items : List Json) : compactItems items = items.map compact := by
  induction items with
  | nil => rfl
  | cons v rest ih => rw [compactItems, ih, List.map_cons]

/-- Fields are printed one by one, name and value. -/
theorem compactFields_eq_map (fields : List (String × Json)) :
    compactFields fields = fields.map fun f => quote f.1 ++ ":" ++ compact f.2 := by
  induction fields with
  | nil => rfl
  | cons f rest ih => rw [compactFields, ih, List.map_cons]

/-- In the indented layout items are printed one by one as well. -/
theorem indentedItems_eq_map (level : Nat) (items : List Json) :
    indentedItems level items = items.map (indented level) := by
  induction items with
  | nil => rfl
  | cons v rest ih => rw [indentedItems, ih, List.map_cons]

/-- So are fields. -/
theorem indentedFields_eq_map (level : Nat) (fields : List (String × Json)) :
    indentedFields level fields = fields.map fun f => quote f.1 ++ ": " ++ indented level f.2 := by
  induction fields with
  | nil => rfl
  | cons f rest ih => rw [indentedFields, ih, List.map_cons]

/-- A field spells its lexemes if its value does. -/
theorem spells_field {colon text : String} {f : String × Json}
    (hcolon : Punctuates colon.toList .colon) (h : Spells text.toList f.2.tokens) :
    Spells (quote f.1 ++ colon ++ text).toList (tokensOfField f) := by
  rw [String.toList_append, String.toList_append]
  exact ((closed_quote f.1).append hcolon.closed).append_spells h

/-- **The compact layout spells the value.** -/
theorem Plain.spells_compact {v : Json} (h : Plain v) : Spells v.compact.toList v.tokens := by
  have hcomma : Punctuates ",".toList .comma := punctuates_alone rfl
  induction h with
  | null => exact spells_word rfl (by decide) rfl
  | bool b =>
    cases b with
    | true => exact spells_word rfl (by decide) rfl
    | false => exact spells_word rfl (by decide) rfl
  | nat n => exact spells_repr n
  | str s => exact (closed_quote s).spells
  | @arr items _ ih =>
    rw [compact, compactItems_eq_map, tokens, itemTokens_eq_map, String.toList_append,
      String.toList_append, String.toList_intercalate, List.map_map]
    exact (closed_bracketed (punctuates_alone rfl) (punctuates_alone rfl) hcomma ih).spells
  | @obj fields _ ih =>
    rw [compact, compactFields_eq_map, tokens, fieldTokens_eq_map, String.toList_append,
      String.toList_append, String.toList_intercalate, List.map_map]
    refine (closed_bracketed (punctuates_alone rfl) (punctuates_alone rfl) hcomma ?_).spells
    exact fun f hf => spells_field (punctuates_alone rfl) (ih f hf)

/-- Lines between brackets spell what the lines spell. -/
theorem closed_lines {α : Type} {text : α → String} {lexemes : α → List Token}
    {opening closing : String} {c c' : Char} {t t' : Token} (hc : opening.toList = [c])
    (hc' : closing.toList = [c']) (hopening : ofMark? c = some t) (hclosing : ofMark? c' = some t')
    (level : Nat) {xs : List α} (h : ∀ x ∈ xs, Spells (text x).toList (lexemes x)) :
    Closed (bracketed opening closing level (xs.map text)).toList
      (t :: ([.comma].intercalate (xs.map lexemes) ++ [t'])) := by
  have hgap : ∀ level, ∀ x ∈ (newline level).toList, isGap x = true := fun _ _ =>
    isGap_of_mem_newline
  have hcomma : Punctuates (',' :: (newline (level + 1)).toList) .comma :=
    (punctuates_mark rfl (hgap (level + 1))).1
  rw [bracketed]
  split
  · next hnone =>
    obtain rfl : xs = [] := by simpa using hnone
    rw [String.toList_append, hc, hc']
    exact (punctuates_alone hopening).closed.append (punctuates_alone hclosing).closed
  · have hlines := closed_bracketed (punctuates_mark hopening (hgap (level + 1))).1
      (punctuates_mark hclosing (hgap level)).2 hcomma h
    have htext : (opening ++ newline (level + 1)
          ++ ("," ++ newline (level + 1)).intercalate (xs.map text) ++ newline level
          ++ closing).toList
        = c :: (newline (level + 1)).toList
          ++ (',' :: (newline (level + 1)).toList).intercalate (xs.map fun x => (text x).toList)
          ++ ((newline level).toList ++ [c']) := by
      simp only [String.toList_append, String.toList_intercalate, List.map_map, hc, hc',
        List.append_assoc, List.cons_append]
      rfl
    rw [htext]
    exact hlines

/-- **The layout in lines spells the value.** -/
theorem Plain.spells_indented {v : Json} (h : Plain v) (level : Nat) :
    Spells (indented level v).toList v.tokens := by
  induction h generalizing level with
  | null => exact Plain.null.spells_compact
  | bool b => exact (Plain.bool b).spells_compact
  | nat n => exact (Plain.nat n).spells_compact
  | str s => exact (Plain.str s).spells_compact
  | @arr items _ ih =>
    have hitems : ∀ v ∈ items, Spells (indented (level + 1) v).toList v.tokens := fun v hv =>
      ih v hv (level + 1)
    have hopening : "[".toList = ['['] := rfl
    have hclosing : "]".toList = [']'] := rfl
    rw [indented, indentedItems_eq_map, tokens, itemTokens_eq_map]
    exact (closed_lines hopening hclosing rfl rfl level hitems).spells
  | @obj fields _ ih =>
    have hcolon : Punctuates ": ".toList .colon :=
      (punctuates_mark rfl (List.forall_mem_singleton.mpr rfl)).1
    have hfields : ∀ f ∈ fields,
        Spells (quote f.1 ++ ": " ++ indented (level + 1) f.2).toList (tokensOfField f) :=
      fun f hf => spells_field hcolon (ih f hf (level + 1))
    have hopening : "\x7b".toList = ['\x7b'] := rfl
    have hclosing : "\x7d".toList = ['\x7d'] := rfl
    rw [indented, indentedFields_eq_map, tokens, fieldTokens_eq_map]
    exact (closed_lines hopening hclosing rfl rfl level hfields).spells

end Layouts

/-! ## The round trip -/

/-- A text that spells the lexemes of a value is parsed as the value, whatever its layout. -/
theorem Plain.parse?_of_spells {v : Json} (h : Plain v) {text : String}
    (htext : Token.Spells text.toList v.tokens) : parse? text = some v := by
  rw [parse?, htext.scan?_eq, Option.bind_eq_bind, Option.bind_some, h.ofTokens?_tokens]

/-- **The compact text of a value denotes it.** -/
theorem Plain.parse?_compact {v : Json} (h : Plain v) : parse? v.compact = some v :=
  h.parse?_of_spells h.spells_compact

/-- **The text of a value in lines denotes it.** -/
theorem Plain.parse?_pretty {v : Json} (h : Plain v) : parse? v.pretty = some v :=
  h.parse?_of_spells (h.spells_indented 0)

/-! ## Codecs

What is proved of records that are written and read needs no more of the texts between than this. -/

/-- A printer of values and a reader of texts that gives back the values a program writes. -/
structure Codec where
  print : Json → String
  read? : String → Option Json
  back : ∀ {v}, Plain v → read? (print v) = some v

namespace Codec

/-- The printer on one line. -/
def compact : Codec := ⟨Json.compact, parse?, Plain.parse?_compact⟩

/-- The printer in lines. -/
def pretty : Codec := ⟨Json.pretty, parse?, Plain.parse?_pretty⟩

end Codec

end Signpost.Json
