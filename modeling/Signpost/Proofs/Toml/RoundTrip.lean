/-
`Proofs/Toml/RoundTrip.lean` -- printed documents read back.

A document is printed as the lines of its plain entries and a section for each of its tables, with
empty lines between these parts. The reader comes to each line with nothing open (`AtLine`), and
each line adds its entry at the end of the table that the last header has opened; as no key occurs
twice, nothing is in its way. Run over all lines and all sections this is `parse?_print`: the
document that was printed is the one that is read.
-/
import Signpost.Proofs.Toml.Value

set_option autoImplicit false

namespace Signpost.Toml

/-! ## Statements -/

/-- The keys that are written without quotes. -/
def BareKey (key : String) : Prop :=
  (!key.isEmpty && key.toList.all fun c => c.isAlphanum || c = '_' || c = '-') = true

instance (key : String) : Decidable (BareKey key) := inferInstanceAs (Decidable (_ = true))

namespace BareKey

variable {key : String}

/-- A bare key is written as it is. -/
theorem printKey_eq (h : BareKey key) : printKey key = key := if_pos h

/-- The printer takes it for bare. -/
theorem isBare (h : BareKey key) : Key.isBare key.toList = true := (Bool.and_eq_true_iff.mp h).2

/-- What is written is the word. -/
theorem spells (h : BareKey key) : Token.Spells key.toList [.word key.toList] := by
  refine Token.spells_word ?_ fun c hc => ?_
  · intro hnil
    have hempty := (Bool.and_eq_true_iff.mp h).1
    simp [String.toList_eq_nil_iff.mp hnil] at hempty
  · have hc := List.all_eq_true.mp h.isBare c hc
    simp only [Token.isWordChar, Bool.or_eq_true] at hc ⊢
    exact .inl (.inl hc)

end BareKey

/-- An entry that is written on a line of its own. -/
structure Line (e : String × Toml) : Prop where
  bare : BareKey e.1
  simple : Simple e.2

/-- A simple value under a bare key makes a line. -/
theorem Line.of {key : String} {v : Toml} (hkey : BareKey key) (hv : Simple v) : Line (key, v) :=
  ⟨hkey, hv⟩

/-- The line of an entry. -/
def lineText (e : String × Toml) : String := printKey e.1 ++ " = " ++ printValue e.2 ++ "\n"

/-- The lexemes of a line. -/
def lineTokens (e : String × Toml) : List Token :=
  [.word e.1.toList, .gap ' ', .mark '=', .gap ' '] ++ valueTokens e.2 ++ [.newline]

/-- A line ends by its own line end. -/
theorem Line.closed {e : String × Toml} (h : Line e) :
    Token.Closed (lineText e).toList (lineTokens e) := by
  have hequals : Token.Closed [' ', '=', ' '] [.gap ' ', .mark '=', .gap ' '] :=
    Token.closed_space.append ((Token.closed_char fun _ => rfl).append Token.closed_space)
  have hkey := h.bare.spells.append hequals rfl
  have hvalue := h.simple.spells.append Token.closed_newline rfl
  have hline := hkey.append hvalue
  rw [← List.append_assoc] at hline
  rw [lineText, h.bare.printKey_eq, String.toList_append, String.toList_append,
    String.toList_append, lineTokens, List.append_assoc _ (valueTokens e.2)]
  exact hline

namespace Item

/-- Under a key that is not there yet, what is entered comes last. -/
theorem updateKey_append {key : String} {f : Option Item → Option Item} {es : Entries}
    (h : key ∉ es.map Prod.fst) (rest : Entries) :
    updateKey key f (es ++ rest) = (updateKey key f rest).map (es ++ ·) := by
  induction es with
  | nil => simp
  | cons e es ih =>
    obtain ⟨k, item⟩ := e
    obtain ⟨hk, hes⟩ : k ≠ key ∧ key ∉ es.map Prod.fst := by simpa [eq_comm] using h
    rw [List.cons_append, updateKey, if_neg hk, ih hes, Option.map_map]
    rfl

/-- A key that is new is added behind the entries that are there. -/
theorem assign_nil {key : String} {v : Toml} {es : Entries} (h : key ∉ es.map Prod.fst) :
    assign [] key v es = some (es ++ [(key, .value v)]) := by
  have hupdate := fun f => @updateKey_append key f es h []
  simp only [List.append_nil] at hupdate
  exact hupdate _

/-- So is a table with a new key. -/
theorem openTable_nil {key : String} {es : Entries} (h : key ∉ es.map Prod.fst) :
    openTable [] key es = some (es ++ [(key, .table false false [])]) := by
  have hupdate := fun f => @updateKey_append key f es h []
  simp only [List.append_nil] at hupdate
  exact hupdate _

/-- The table that the last header opened is the last entry, and what comes next goes into it. -/
theorem inside_last {key : String} {es : Entries} (h : key ∉ es.map Prod.fst)
    (f : Entries → Option Entries) (inner : Entries) :
    inside f [key] (es ++ [(key, .table false false inner)])
      = (f inner).map fun inner => es ++ [(key, .table false false inner)] := by
  rw [inside, updateKey_append h, updateKey, if_pos rfl]
  simp only [inside, Option.map_map]
  rfl

end Item

namespace Reader

variable {current : List String} {entries : Item.Entries}

/-- A reader at the start of a line, under the given header and with the given entries. -/
def AtLine (current : List String) (entries : Item.Entries) (r : Reader) : Prop :=
  ∃ target, r = ⟨.lineStart, [], entries, current, target⟩

/-- A line enters its entry. -/
theorem foldlM_line {e : String × Toml} (h : Line e) {entries' : Item.Entries}
    (hput : Item.inside (Item.assign [] e.1 e.2) current entries = some entries') {r : Reader}
    (hr : AtLine current entries r) :
    ∃ r', AtLine current entries' r' ∧ (lineTokens e).foldlM step r = some r' := by
  obtain ⟨target, rfl⟩ := hr
  refine ⟨⟨.lineStart, [], entries', current, ([], e.1)⟩, ⟨([], e.1), rfl⟩, ?_⟩
  have hkey : [Token.word e.1.toList, .gap ' ', .mark '=', .gap ' '].foldlM step
        ⟨.lineStart, [], entries, current, target⟩
      = some ⟨.value, [], entries, current, ([], e.1)⟩ := by
    have hword : step ⟨.lineStart, [], entries, current, target⟩ (.word e.1.toList)
        = some ⟨.key ⟨[e.1], false⟩, [], entries, current, target⟩ := by
      simp [step, Key.step, Key.start, h.bare.isBare]
    rw [List.foldlM_cons, hword]
    rfl
  rw [lineTokens, List.append_assoc, foldlM_append_of_some hkey, h.simple.assigns _ rfl rfl, commit,
    hput, Option.map_some]

/-- Lines enter their entries, one after the other, where the header says. -/
theorem foldlM_lines {place : Item.Entries → Item.Entries}
    (hplace : ∀ f inner, Item.inside f current (place inner) = (f inner).map place)
    {es : List (String × Toml)} (h : ∀ e ∈ es, Line e) {inner : Item.Entries}
    (hnodup : (inner.map Prod.fst ++ es.map Prod.fst).Nodup) {r : Reader}
    (hr : AtLine current (place inner) r) :
    ∃ r', AtLine current (place (inner ++ es.map fun e => (e.1, .value e.2))) r'
      ∧ (es.flatMap lineTokens).foldlM step r = some r' := by
  induction es generalizing inner r with
  | nil => exact ⟨r, by simpa using hr, rfl⟩
  | cons e es ih =>
    have hnew : e.1 ∉ inner.map Prod.fst := by
      intro hmem
      exact (List.nodup_append.mp hnodup).2.2 e.1 hmem e.1 List.mem_cons_self rfl
    have hput : Item.inside (Item.assign [] e.1 e.2) current (place inner)
        = some (place (inner ++ [(e.1, .value e.2)])) := by
      rw [hplace, Item.assign_nil hnew, Option.map_some]
    obtain ⟨r₁, hr₁, hfirst⟩ := foldlM_line (h e List.mem_cons_self) hput hr
    obtain ⟨r₂, hr₂, hrest⟩ :=
      ih (fun x hx => h x (List.mem_cons_of_mem e hx)) (by simpa using hnodup) hr₁
    refine ⟨r₂, by simpa using hr₂, ?_⟩
    rw [List.flatMap_cons, foldlM_append_of_some hfirst, hrest]

end Reader

/-! ## Sections -/

/-- A table with a header. -/
structure Section (t : String × List (String × Toml)) : Prop where
  bare : BareKey t.1
  lines : ∀ e ∈ t.2, Line e
  nodup : (t.2.map Prod.fst).Nodup

/-- Lines with different keys under a bare key make a section. -/
theorem Section.of {key : String} {es : List (String × Toml)} (hkey : BareKey key)
    (hlines : ∀ e ∈ es, Line e) (hnodup : (es.map Prod.fst).Nodup) : Section (key, es) :=
  ⟨hkey, hlines, hnodup⟩

/-- The text of a section. -/
def sectionText (t : String × List (String × Toml)) : String :=
  "[" ++ printKey t.1 ++ "]\n" ++ String.join (t.2.map lineText)

/-- The lexemes of a section. -/
def sectionTokens (t : String × List (String × Toml)) : List Token :=
  [.mark '[', .word t.1.toList, .mark ']', .newline] ++ t.2.flatMap lineTokens

/-- The text of the lines, character by character. -/
theorem toList_join_lineText (es : List (String × Toml)) :
    (String.join (es.map lineText)).toList = es.flatMap fun e => (lineText e).toList := by
  simp [List.flatMap_map]

/-- A section ends with its last line. -/
theorem Section.closed {t : String × List (String × Toml)} (h : Section t) :
    Token.Closed (sectionText t).toList (sectionTokens t) := by
  have hclose : Token.Closed [']', '\n'] [.mark ']', .newline] :=
    Token.closed_close.append Token.closed_newline
  have hheader := Token.closed_open.append (h.bare.spells.append hclose rfl)
  have hlines := Token.closed_flatMap fun e he => (h.lines e he).closed
  rw [sectionText, h.bare.printKey_eq, String.toList_append, String.toList_append,
    String.toList_append, toList_join_lineText, List.append_assoc "[".toList]
  exact hheader.append hlines

/-- The entry of a section in the making. -/
def sectionItem (t : String × List (String × Toml)) : String × Item :=
  (t.1, .table false false (t.2.map fun e => (e.1, .value e.2)))

namespace Reader

variable {current : List String} {entries : Item.Entries}

/-- **Reading a section** adds its table behind the entries that are there. -/
theorem foldlM_section {t : String × List (String × Toml)} (h : Section t)
    (hnew : t.1 ∉ entries.map Prod.fst) {r : Reader} (hr : AtLine current entries r) :
    ∃ r', AtLine [t.1] (entries ++ [sectionItem t]) r'
      ∧ (sectionTokens t).foldlM step r = some r' := by
  obtain ⟨target, rfl⟩ := hr
  have hheader : [Token.mark '[', .word t.1.toList, .mark ']', .newline].foldlM step
        ⟨.lineStart, [], entries, current, target⟩
      = some ⟨.lineStart, [], entries ++ [(t.1, .table false false [])], [t.1], target⟩ := by
    have hword : step ⟨.headerStart, [], entries, current, target⟩ (.word t.1.toList)
        = some ⟨.header false ⟨[t.1], false⟩, [], entries, current, target⟩ := by
      simp [step, Key.step, Key.start, h.bare.isBare]
    have hopen : step ⟨.header false ⟨[t.1], false⟩, [], entries, current, target⟩ (.mark ']')
        = some ⟨.lineEnd, [], entries ++ [(t.1, .table false false [])], [t.1], target⟩ := by
      have hfinish : Key.finish? ⟨[t.1], false⟩ = some ([], t.1) := rfl
      simp [step, openHeader, hfinish, Item.openTable_nil hnew]
    have hbracket : step ⟨.lineStart, [], entries, current, target⟩ (.mark '[')
        = some ⟨.headerStart, [], entries, current, target⟩ := rfl
    simp only [List.foldlM_cons, hbracket, Option.bind_eq_bind, Option.bind_some, hword, hopen]
    rfl
  have hnodup : (([] : Item.Entries).map Prod.fst ++ t.2.map Prod.fst).Nodup := h.nodup
  obtain ⟨r', hr', hlines⟩ := foldlM_lines (Item.inside_last hnew) h.lines hnodup ⟨target, rfl⟩
  refine ⟨r', hr', ?_⟩
  rw [sectionTokens, foldlM_append_of_some hheader, hlines]

/-- An empty line changes nothing. -/
theorem AtLine.step_newline {r : Reader} (hr : AtLine current entries r) :
    r.step .newline = some r := by
  obtain ⟨target, rfl⟩ := hr
  rfl

/-- Sections, with an empty line before each. -/
theorem foldlM_sections {ts : List (String × List (String × Toml))} (h : ∀ t ∈ ts, Section t)
    (hnodup : (entries.map Prod.fst ++ ts.map Prod.fst).Nodup) {r : Reader}
    (hr : AtLine current entries r) :
    ∃ r' current', AtLine current' (entries ++ ts.map sectionItem) r'
      ∧ (ts.flatMap fun t => .newline :: sectionTokens t).foldlM step r = some r' := by
  induction ts generalizing entries current r with
  | nil => exact ⟨r, current, by simpa using hr, rfl⟩
  | cons t ts ih =>
    have hnew : t.1 ∉ entries.map Prod.fst := by
      intro hmem
      exact (List.nodup_append.mp hnodup).2.2 t.1 hmem t.1 List.mem_cons_self rfl
    obtain ⟨r₁, hr₁, hfirst⟩ := foldlM_section (h t List.mem_cons_self) hnew hr
    obtain ⟨r₂, current', hr₂, hrest⟩ := ih (fun x hx => h x (List.mem_cons_of_mem t hx))
      (by simpa [sectionItem] using hnodup) hr₁
    refine ⟨r₂, current', by simpa using hr₂, ?_⟩
    rw [List.flatMap_cons, List.cons_append, List.foldlM_cons, hr.step_newline, Option.bind_eq_bind,
      Option.bind_some, foldlM_append_of_some hfirst, hrest]

/-- At the start of a line, empty lines between parts may as well stand before them. -/
theorem foldlM_intercalate {r : Reader} (hr : AtLine current entries r)
    (parts : List (List Token)) :
    ([Token.newline].intercalate parts).foldlM step r
      = (parts.flatMap (.newline :: ·)).foldlM step r := by
  have hparts : ∀ part parts, [Token.newline].intercalate (part :: parts)
      = part ++ parts.flatMap (.newline :: ·) := by
    intro part parts
    induction parts generalizing part with
    | nil => simp
    | cons next parts ih => simp [List.intercalate_cons_cons, ih]
  cases parts with
  | nil => rfl
  | cons part parts =>
    rw [hparts, List.flatMap_cons, List.cons_append, List.foldlM_cons, hr.step_newline]
    rfl

end Reader

/-! ## Documents -/

/-- The value of a finished table is taken entry by entry. -/
theorem entriesToToml_eq_map (es : Item.Entries) :
    Item.entriesToToml es = es.map fun e => (e.1, e.2.toToml) := by
  induction es with
  | nil => rfl
  | cons e rest ih => rw [Item.entriesToToml, ih, List.map_cons]

section Document

variable {plain : List (String × Toml)} {tables : List (String × List (String × Toml))}

/-- A document: entries that are no tables, and tables of such entries. -/
def document (plain : List (String × Toml)) (tables : List (String × List (String × Toml))) :
    List (String × Toml) := plain ++ tables.map fun t => (t.1, .table t.2)

/-- The plain entries of a document are printed a line each. -/
theorem plainLines_document (h : ∀ e ∈ plain, Line e) :
    plainLines (document plain tables) = String.join (plain.map lineText) := by
  induction plain with
  | nil =>
    induction tables with
    | nil => rfl
    | cons t tables ih =>
      rw [← ih]
      simp [plainLines, document]
  | cons e plain ih =>
    have he : plainLines (e :: document plain tables)
        = lineText e ++ plainLines (document plain tables) := by
      obtain ⟨key, v⟩ := e
      cases (h _ List.mem_cons_self).simple with
      | scalar hv => cases hv <;> simp [plainLines, lineText]
      | array _ => simp [plainLines, lineText]
    rw [List.map_cons, String.join_cons, ← ih fun x hx => h x (List.mem_cons_of_mem e hx), ← he]
    rfl

/-- Its tables are printed a section each. -/
theorem sections_document (h : ∀ e ∈ plain, Line e) :
    sections (document plain tables) = tables.map sectionText := by
  have hplain : sections plain = [] := by
    refine List.filterMap_eq_nil_iff.mpr fun e he => ?_
    obtain ⟨key, v⟩ := e
    cases (h _ he).simple with
    | scalar hv => cases hv <;> rfl
    | array _ => rfl
  rw [sections] at hplain
  rw [sections, document, List.filterMap_append, hplain, List.nil_append, List.filterMap_map]
  exact congrFun (List.filterMap_eq_map (f := sectionText)) tables

/-- The parts of a document with their lexemes. -/
def documentParts (plain : List (String × Toml)) (tables : List (String × List (String × Toml))) :
    List (String × List Token) :=
  (if plain.isEmpty then [] else [(String.join (plain.map lineText), plain.flatMap lineTokens)])
    ++ tables.map fun t => (sectionText t, sectionTokens t)

/-- The parts of a document are printed with an empty line between them. -/
theorem print_document (h : ∀ e ∈ plain, Line e) :
    print (document plain tables)
      = "\n".intercalate ((documentParts plain tables).map Prod.fst) := by
  have hempty : (String.join (plain.map lineText)).isEmpty = plain.isEmpty := by
    cases plain with
    | nil => rfl
    | cons e es => simp [lineText]
  rw [print, plainLines_document h, sections_document h, hempty, documentParts, List.map_append,
    List.map_map]
  split <;> rfl

/-- A printed document spells the lexemes of its parts, with a line end between them. -/
theorem closed_print (hplain : ∀ e ∈ plain, Line e) (htables : ∀ t ∈ tables, Section t) :
    Token.Closed (print (document plain tables)).toList
      ([.newline].intercalate ((documentParts plain tables).map Prod.snd)) := by
  have hparts : ∀ part ∈ documentParts plain tables, Token.Closed part.1.toList part.2 := by
    intro part hpart
    rw [documentParts, List.mem_append, List.mem_map] at hpart
    rcases hpart with hpart | ⟨t, ht, rfl⟩
    · split at hpart
      · cases hpart
      · obtain rfl := List.mem_singleton.mp hpart
        rw [toList_join_lineText]
        exact Token.closed_flatMap fun e he => (hplain e he).closed
    · exact (htables t ht).closed
  rw [print_document hplain, String.toList_intercalate, List.map_map]
  exact Token.closed_intercalate hparts

/-- The lines of the entries that are no tables, if there are any. -/
theorem Reader.foldlM_plain (hplain : ∀ e ∈ plain, Line e) (hnodup : (plain.map Prod.fst).Nodup) :
    ∃ r, Reader.AtLine [] (plain.map fun e => (e.1, .value e.2)) r
      ∧ ((if plain.isEmpty then [] else [plain.flatMap lineTokens]).flatMap
        (.newline :: ·)).foldlM Reader.step Reader.start = some r := by
  have hstart : Reader.AtLine [] [] Reader.start := ⟨([], ""), rfl⟩
  split
  · next hnone =>
    rw [List.isEmpty_iff.mp hnone]
    exact ⟨Reader.start, hstart, rfl⟩
  · have hplace : ∀ f inner, Item.inside f [] (id inner) = (f inner).map id := by
      intro f inner
      rw [Option.map_id]
      rfl
    have hnone : (([] : Item.Entries).map Prod.fst ++ plain.map Prod.fst).Nodup := hnodup
    obtain ⟨r, hr, hlines⟩ := Reader.foldlM_lines hplace hplain hnone hstart
    refine ⟨r, hr, ?_⟩
    rw [List.flatMap_singleton, List.foldlM_cons, hstart.step_newline]
    exact hlines

/-- **Reading all parts** of a document leaves a reader that holds its entries, in order. -/
theorem Reader.foldlM_document (hplain : ∀ e ∈ plain, Line e) (htables : ∀ t ∈ tables, Section t)
    (hnodup : (plain.map Prod.fst ++ tables.map Prod.fst).Nodup) :
    ∃ r current, Reader.AtLine current
        ((plain.map fun e => (e.1, .value e.2)) ++ tables.map sectionItem) r
      ∧ ([.newline].intercalate ((documentParts plain tables).map Prod.snd)).foldlM Reader.step
        Reader.start = some r := by
  have hstart : Reader.AtLine [] [] Reader.start := ⟨([], ""), rfl⟩
  obtain ⟨r, hr, hlines⟩ := Reader.foldlM_plain hplain (List.nodup_append.mp hnodup).1
  obtain ⟨r', current, hr', hsections⟩ :=
    Reader.foldlM_sections htables (by simpa [Function.comp_def] using hnodup) hr
  refine ⟨r', current, hr', ?_⟩
  have hsplit : ((documentParts plain tables).map Prod.snd).flatMap (Token.newline :: ·)
      = (if plain.isEmpty then [] else [plain.flatMap lineTokens]).flatMap (Token.newline :: ·)
        ++ tables.flatMap fun t => Token.newline :: sectionTokens t := by
    have hplain : (if plain.isEmpty then [] else
          [(String.join (plain.map lineText), plain.flatMap lineTokens)]).map Prod.snd
        = if plain.isEmpty then [] else [plain.flatMap lineTokens] := by
      split <;> rfl
    rw [documentParts, List.map_append, hplain, List.flatMap_append, List.map_map, List.flatMap_map]
    rfl
  rw [Reader.foldlM_intercalate hstart, hsplit, foldlM_append_of_some hlines, hsections]

/-- **A printed document reads back.** -/
theorem parse?_print (hplain : ∀ e ∈ plain, Line e) (htables : ∀ t ∈ tables, Section t)
    (hnodup : (plain.map Prod.fst ++ tables.map Prod.fst).Nodup) :
    parse? (print (document plain tables)) = some (.table (document plain tables)) := by
  obtain ⟨r, current, hr, hfold⟩ := Reader.foldlM_document hplain htables hnodup
  have hend : [Token.newline].foldlM Reader.step r = some r := by
    rw [List.foldlM_cons, hr.step_newline]
    rfl
  have hitems : Item.entriesToToml ((plain.map fun e => (e.1, .value e.2))
      ++ tables.map sectionItem) = document plain tables := by
    simp [entriesToToml_eq_map, document, sectionItem, Item.toToml, Function.comp_def]
  have hfinish : r.finish? = some (.table (document plain tables)) := by
    obtain ⟨target, rfl⟩ := hr
    exact congrArg (fun es => some (Toml.table es)) hitems
  rw [parse?, (closed_print hplain htables).scan?_eq, Option.bind_eq_bind, Option.bind_some,
    foldlM_append_of_some hfold, hend]
  exact hfinish

end Document

/-! ## Codecs

What is proved of settings that are written and read needs no more of the text between than this. -/

/-- The documents that a program writes. -/
inductive Written : List (String × Toml) → Prop
  | document {plain : List (String × Toml)} {tables : List (String × List (String × Toml))}
    (lines : ∀ e ∈ plain, Line e) (sections : ∀ t ∈ tables, Section t)
    (nodup : (plain.map Prod.fst ++ tables.map Prod.fst).Nodup) : Written (document plain tables)

/-- A printer of documents and a reader of texts that gives back the ones a program writes. -/
structure Codec where
  print : List (String × Toml) → String
  read? : String → Option Toml
  back : ∀ {es}, Written es → read? (print es) = some (.table es)

/-- The printer in lines and sections. -/
def Codec.lines : Codec where
  print := Toml.print
  read? := parse?
  back := fun | .document hlines hsections hnodup => parse?_print hlines hsections hnodup

end Signpost.Toml
