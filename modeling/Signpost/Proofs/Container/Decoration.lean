/-
`Proofs/Container/Decoration.lean` -- decorated references.

A reference to a service or a parameter is written with marks of its own, `@id`, `@?id` or `%key%`,
and may stand in quotes and between blanks. The definition that it means was entered under a key
made from an undecorated text. The two sides take things off in different orders: the key of an id
is made after blanks, quotes, one `@` and one separator are gone, while a reference loses blanks,
quotes, the `@` and the `?`, and what is left goes through all the steps of a key again.

What makes them meet is that the marks are neither blanks nor quotes. A decorated reference starts,
once its decoration is off, with its mark (`Decoration.exists_rest`), so the quotes that are taken
off are those of the decoration and never those of the id; and behind the mark stands the id, up to
blanks that the key would take off as well. Which definition counts is then a matter of the log:
the last one whose key is the same.

Specification: B.6, items 5 and 6.
-/
import Signpost.Container
import Signpost.Proofs.Container.Reference

set_option autoImplicit false

namespace Signpost

/-! ## Decorations -/

namespace Text

/-- The quotes that can stand around a text. -/
def quotes : List Char := [doubleQuote, singleQuote]

/-- What can stand around a reference: blanks, and inside them one pair of quotes or none. -/
structure Decoration where
  before : Blanks
  quote : Option Char
  after : Blanks
  quote_mem : ∀ q ∈ quote, q ∈ quotes

namespace Decoration

variable (decoration : Decoration)

/-- The decorated text. -/
def wrap (s : String) : String :=
  let mark := decoration.quote.elim "" String.singleton
  decoration.before.text ++ (mark ++ s ++ mark) ++ decoration.after.text

theorem toList_wrap (s : String) :
    (decoration.wrap s).toList
      = decoration.before.text.toList
        ++ (decoration.quote.toList ++ s.toList ++ decoration.quote.toList)
        ++ decoration.after.text.toList := by
  have hmark : (decoration.quote.elim "" String.singleton).toList = decoration.quote.toList := by
    cases decoration.quote with
    | none => rfl
    | some q => exact String.toList_singleton q
  simp only [wrap, String.toList_append, hmark]

/-- **The decoration comes off.** A text that starts with neither a blank nor a quote is found again
inside its decoration, but for blanks at its end. -/
theorem exists_rest {mark : Char} (hblank : isBlank mark = false) (hquote : mark ∉ quotes)
    {s : String} {cs : List Char} (hs : s.toList = mark :: cs) :
    ∃ rest, (unquote (trim (decoration.wrap s))).toList = mark :: rest
      ∧ (rest = cs ∨ rest = trimEndChars cs) := by
  have hdouble : mark ≠ doubleQuote := fun h => hquote (h ▸ by decide)
  have hsingle : mark ≠ singleQuote := fun h => hquote (h ▸ by decide)
  rw [toList_unquote, toList_trim, toList_wrap,
    trimChars_append (fun c hc => decoration.before.isBlank_of_mem hc)
      (fun c hc => decoration.after.isBlank_of_mem hc), hs]
  cases hquoted : decoration.quote with
  | none =>
    -- without quotes the blanks at the end of the text are trimmed with those around it
    refine ⟨trimEndChars cs, ?_, .inr rfl⟩
    rw [Option.toList_none, List.nil_append, List.append_nil, trimChars_cons hblank, unquoteChars,
      if_neg (by simp [hdouble, hsingle])]
  | some q =>
    have hq : q = doubleQuote ∨ q = singleQuote := by
      simpa [quotes] using decoration.quote_mem q hquoted
    have hqblank : isBlank q = false := by
      rcases hq with rfl | rfl
      · decide
      · decide
    have hend : trimEndChars (mark :: cs ++ [q]) = mark :: cs ++ [q] :=
      List.rdropWhile_concat_neg isBlank _ q (by simp [hqblank])
    refine ⟨cs, ?_, .inl rfl⟩
    rw [Option.toList_some, List.singleton_append, List.cons_append, trimChars_cons hqblank, hend,
      unquoteChars, if_pos ⟨hq, List.getLast?_concat⟩, List.dropLast_concat]

end Decoration

/-- A text that is not in quotes has none to take off. -/
theorem unquoteChars_eq_self {cs : List Char}
    (h : ∀ q ∈ quotes, ∀ inner, cs ≠ q :: (inner ++ [q])) : unquoteChars cs = cs := by
  cases cs with
  | nil => rfl
  | cons q rest =>
    rw [unquoteChars, if_neg]
    rintro ⟨hq, hlast⟩
    obtain ⟨inner, rfl⟩ := List.getLast?_eq_some_iff.mp hlast
    exact h q (by simpa [quotes] using hq) inner rfl

theorem dropWhile_eq_self_of_free {mark : Char} {cs : List Char} (h : mark ∉ cs) :
    cs.dropWhile (· == mark) = cs := by
  cases cs with
  | nil => rfl
  | cons c cs =>
    have hc : c ≠ mark := fun heq => h (heq ▸ List.mem_cons_self)
    rw [List.dropWhile_cons_of_neg (by simpa using hc)]

/-- A text that holds no mark has none to lose at its ends. -/
theorem dropAround_eq_self {mark : Char} {s : String} (hfree : mark ∉ s.toList) :
    dropAround mark s = s := by
  rw [dropAround, dropWhile_eq_self_of_free hfree,
    dropWhile_eq_self_of_free (fun h => hfree (List.mem_reverse.mp h)), List.reverse_reverse,
    String.ofList_toList]

/-- A text between two marks loses them and nothing else. -/
theorem dropAround_around {mark : Char} {s : String} (hne : s ≠ "") (hfree : mark ∉ s.toList) :
    dropAround mark (String.singleton mark ++ s ++ String.singleton mark) = s := by
  obtain ⟨c, cs, hcs⟩ : ∃ c cs, s.toList = c :: cs :=
    List.exists_cons_of_ne_nil fun h => hne (String.toList_eq_nil_iff.mp h)
  have hc : c ≠ mark := fun heq => hfree (hcs ▸ heq ▸ List.mem_cons_self)
  have hstart : (String.singleton mark ++ s ++ String.singleton mark).toList.dropWhile (· == mark)
      = s.toList ++ [mark] := by
    simp [hcs, hc]
  rw [dropAround, hstart, List.reverse_append, List.reverse_singleton, List.singleton_append,
    List.dropWhile_cons_of_pos (by simp),
    dropWhile_eq_self_of_free (fun h => hfree (List.mem_reverse.mp h)), List.reverse_reverse,
    String.ofList_toList]

theorem dropOneChars_eq_self {mark : Char} {cs : List Char} (h : cs.head? ≠ some mark) :
    dropOneChars mark cs = cs := by
  cases cs with
  | nil => rfl
  | cons c cs => rw [dropOneChars, if_neg fun heq => h (congrArg some heq)]

end Text

/-! ## References to services -/

namespace Reference

/-- What stands behind `@`, or `@?`, names a service unless it starts with another mark. -/
theorem service?_eq_some {text : String} {marks core : List Char}
    (hmarks : marks = [] ∨ marks = ['?'])
    (htext : (Text.unquote (Text.trim text)).toList = '@' :: (marks ++ core))
    (hcore : ∀ mark ∈ ['@', '=', '?'], core.head? ≠ some mark) (hid : Text.trimChars core ≠ []) :
    service? text = some (.ofList (Text.trimChars core)) := by
  have hat : core.head? ≠ some '@' := hcore '@' (by decide)
  have hequals : core.head? ≠ some '=' := hcore '=' (by decide)
  have hdrop : Text.dropOneChars '?' (marks ++ core) = core := by
    rcases hmarks with rfl | rfl
    · exact Text.dropOneChars_eq_self (hcore '?' (by decide))
    · rfl
  -- neither refusal applies, with the `?` or without it
  have hother : (marks ++ core).head? ≠ some '@' ∧ (marks ++ core).head? ≠ some '=' := by
    rcases hmarks with rfl | rfl
    · exact ⟨hat, hequals⟩
    · exact ⟨by simp, by simp⟩
  unfold service?
  rewrite [htext]
  split
  · next h => exact absurd (congrArg List.head? (List.cons.inj h).2) hother.1
  · next h => exact absurd (congrArg List.head? (List.cons.inj h).2) hother.2
  · next h => simp [← (List.cons.inj h).2, hdrop, hid]
  · next h => exact absurd rfl (h (marks ++ core))

/-- **A decorated reference names the id without the blanks around it.** -/
theorem service?_wrap (decoration : Text.Decoration) {text id : String} {marks : List Char}
    (hmarks : marks = [] ∨ marks = ['?']) (htext : text.toList = '@' :: (marks ++ id.toList))
    (hblank : Text.trim id ≠ "")
    (hstart : ∀ mark ∈ ['@', '=', '?'], Text.startsWith mark id = false) :
    service? (decoration.wrap text) = some (Text.trim id) := by
  obtain ⟨rest, hrest, hends⟩ := decoration.exists_rest (by decide) (by decide) htext
  -- behind the marks stands the id, which may have lost the blanks at its end
  obtain ⟨core, rfl, hprefix, htrim⟩ : ∃ core, rest = marks ++ core ∧ core <+: id.toList
      ∧ Text.trimChars core = Text.trimChars id.toList := by
    rcases hends with rfl | rfl
    · exact ⟨id.toList, rfl, List.prefix_rfl, rfl⟩
    · refine ⟨Text.trimEndChars id.toList, ?_, Text.trimEndChars_prefix _,
        Text.trimChars_trimEndChars _⟩
      rcases hmarks with rfl | rfl
      · rfl
      · exact Text.trimEndChars_cons (by decide) id.toList
  have hcore : ∀ mark ∈ ['@', '=', '?'], core.head? ≠ some mark := by
    intro mark hmark hfirst
    obtain ⟨cs, rfl⟩ := List.head?_eq_some_iff.mp hfirst
    obtain ⟨more, hmore⟩ := hprefix
    have hstarts : Text.startsWith mark id = true :=
      Text.startsWith_eq_true_iff.mpr ⟨cs ++ more, hmore.symm⟩
    rw [hstart mark hmark] at hstarts
    cases hstarts
  have hid : Text.trimChars core ≠ [] := by
    rw [htrim, ← Text.toList_trim, ne_eq, String.toList_eq_nil_iff]
    exact hblank
  rw [service?_eq_some hmarks hrest hcore hid, htrim, Text.trim]

/-! ## References to parameters -/

/-- Behind the decoration stands the reference as it was written, since it ends with a mark too. -/
theorem unquote_trim_wrap (decoration : Text.Decoration) (key : String) :
    Text.unquote (Text.trim (decoration.wrap ("%" ++ key ++ "%"))) = "%" ++ key ++ "%" := by
  have htext : ("%" ++ key ++ "%").toList = '%' :: (key.toList ++ ['%']) := by simp
  have hend : Text.trimEndChars (key.toList ++ ['%']) = key.toList ++ ['%'] :=
    List.rdropWhile_concat_neg Text.isBlank key.toList '%' (by decide)
  obtain ⟨rest, hrest, hends⟩ := decoration.exists_rest (by decide) (by decide) htext
  have hsame : rest = key.toList ++ ['%'] := by
    rcases hends with rfl | rfl
    · rfl
    · exact hend
  rw [← String.toList_inj, hrest, htext, hsame]

theorem isParameter_around {key : String} (hne : key ≠ "")
    (hkey : ∀ c ∈ key.toList, c ≠ '%' ∧ Text.isBlank c = false) :
    isParameter ("%" ++ key ++ "%") = true := by
  have htext : ("%" ++ key ++ "%").toList = '%' :: (key.toList ++ ['%']) := by simp
  rw [isParameter, htext]
  simp only [List.getLast?_concat, List.dropLast_concat, Bool.and_eq_true, beq_self_eq_true,
    true_and, List.all_eq_true, bne_iff_ne, ne_eq, Bool.not_eq_true']
  refine ⟨?_, hkey⟩
  rw [Bool.eq_false_iff, ne_eq, List.isEmpty_iff, String.toList_eq_nil_iff]
  exact hne

end Reference

/-- **A decorated reference has the key of the parameter.** -/
theorem ParameterKey.ofText?_wrap (decoration : Text.Decoration) {key : String} (hne : key ≠ "")
    (hkey : ∀ c ∈ key.toList, c ≠ '%' ∧ Text.isBlank c = false)
    (hbare : ∀ q ∈ Text.quotes, ∀ inner,
      key ≠ String.singleton q ++ inner ++ String.singleton q) :
    ofText? (decoration.wrap ("%" ++ key ++ "%")) = ofText? key := by
  have hfree : '%' ∉ key.toList := fun h => (hkey '%' h).1 rfl
  have htrim : Text.trim key = key := by
    rw [← String.toList_inj, Text.toList_trim, Text.trimChars_eq_self fun c hc => (hkey c hc).2]
  have hunquote : Text.unquote key = key := by
    rw [← String.toList_inj, Text.toList_unquote]
    refine Text.unquoteChars_eq_self fun q hq inner hchars => ?_
    refine hbare q hq (.ofList inner) (String.toList_inj.mp ?_)
    simpa using hchars
  -- the key of a definition loses `%` as well, but here there is none
  have hboth : Text.dropAround '%' ("%" ++ key ++ "%") = Text.dropAround '%' key :=
    (Text.dropAround_around hne hfree).trans (Text.dropAround_eq_self hfree).symm
  rw [ofText?, ofText?, Reference.unquote_trim_wrap, htrim, hunquote, hboth]

/-! ## The definition that counts -/

/-- There are two keys, and they are the same. -/
def SameKey {κ : Type} (key other : Option κ) : Prop := ∃ k, key = some k ∧ other = some k

instance {κ : Type} [DecidableEq κ] (key other : Option κ) : Decidable (SameKey key other) :=
  decidable_of_iff (key.isSome = true ∧ key = other) <| by
    cases key with
    | none => simp [SameKey]
    | some k => simp [SameKey, eq_comm]

/-- The latest of the values with a key stands first among those that are kept under it. -/
theorem bind_head?_reverse_filter {β κ : Type} [DecidableEq κ] (keyOf : β → Option κ)
    (bs : List β) (key : Option κ) :
    (key.bind fun k => (bs.filter fun b => keyOf b = some k).reverse.head?)
      = (bs.filter fun b => SameKey (keyOf b) key).getLast? := by
  cases key with
  | none => simp [SameKey]
  | some k => simp [SameKey]

namespace Container

variable (log : List Entry) (depth : Nat)

theorem service?_ofEntries (id : String) :
    (Container.mk (Index.ofEntries log) depth).service? id
      = ((log.filterMap Entry.service?).filter fun d =>
          SameKey (ServiceKey.ofText? d.id) (ServiceKey.ofText? id)).getLast? := by
  rw [← bind_head?_reverse_filter fun d : ServiceDefinition => ServiceKey.ofText? d.id]
  simp only [service?, Index.servicesAt_lookups, Index.servicesAt_ofEntries]

theorem parameter?_ofEntries (key : String) :
    (Container.mk (Index.ofEntries log) depth).parameter? key
      = ((log.filterMap Entry.parameter?).filter fun d =>
          SameKey (ParameterKey.ofText? d.key) (ParameterKey.ofText? key)).getLast? := by
  rw [← bind_head?_reverse_filter fun d : ParameterDefinition => ParameterKey.ofText? d.key]
  simp only [parameter?, Index.parametersAt_lookups, Index.parametersAt_ofEntries]

/-- **References find their definitions whatever their decoration.** In the container of any log, an
id that is not blank and does not start with a mark is found behind `@` and behind `@?`, with or
without quotes and blanks around the reference, and the definition found is the last one told under
the key of that id, if there is one. Likewise a key without `%`, blanks and quotes around it makes a
reference to a parameter between two `%`, and what is found is the last definition told under the
key. -/
theorem decorated_references_find_definitions (log : List Entry) (depth : Nat)
    (decoration : Text.Decoration) :
    (∀ id, Text.trim id ≠ "" →
      (∀ mark ∈ ['@', '=', '?'], Text.startsWith mark id = false) →
      ∀ marks ∈ ["@", "@?"], ∃ found,
        Reference.service? (decoration.wrap (marks ++ id)) = some found
          ∧ (Container.mk (Index.ofEntries log) depth).service? found
            = ((log.filterMap Entry.service?).filter fun d =>
                SameKey (ServiceKey.ofText? d.id) (ServiceKey.ofText? id)).getLast?)
    ∧ ∀ key, key ≠ "" → (∀ c ∈ key.toList, c ≠ '%' ∧ Text.isBlank c = false) →
      (∀ q ∈ Text.quotes, ∀ inner, key ≠ String.singleton q ++ inner ++ String.singleton q) →
      Reference.isParameter (Text.unquote (Text.trim (decoration.wrap ("%" ++ key ++ "%")))) = true
        ∧ (Container.mk (Index.ofEntries log) depth).parameter? (decoration.wrap ("%" ++ key ++ "%"))
          = ((log.filterMap Entry.parameter?).filter fun d =>
              SameKey (ParameterKey.ofText? d.key) (ParameterKey.ofText? key)).getLast? := by
  constructor
  · intro id hblank hstart marks hmarks
    refine ⟨Text.trim id, ?_, ?_⟩
    · simp only [List.mem_cons, List.not_mem_nil, or_false] at hmarks
      rcases hmarks with rfl | rfl
      · exact Reference.service?_wrap decoration (.inl rfl) (by simp) hblank hstart
      · exact Reference.service?_wrap decoration (.inr rfl) (by simp) hblank hstart
    · -- the blanks that the reference has lost, the key would have lost first
      have hkey : ServiceKey.ofText? (Text.trim id) = ServiceKey.ofText? id := by
        refine ServiceKey.ofText?_congr ?_
        rw [ServiceKey.bareChars, Text.toList_trim, Text.trimChars_trimChars, ServiceKey.bareChars]
      rw [service?_ofEntries, hkey]
  · intro key hne hkey hbare
    refine ⟨?_, ?_⟩
    · rw [Reference.unquote_trim_wrap]
      exact Reference.isParameter_around hne hkey
    · rw [parameter?_ofEntries, ParameterKey.ofText?_wrap decoration hne hkey hbare]

/-- Two definitions of a service and two of a parameter, each pair spelled in two ways, and references
that are spelled in a third one: the later definitions are found. -/
theorem decorated_references_find_definitions_quoted :
    let mailer : ServiceDefinition := ⟨"'App\\Mailer'", some "App\\NullMailer", none, none⟩
    let locale : ParameterDefinition := ⟨"%Locale%", some "de", none⟩
    let c : Container := ⟨Index.ofEntries [.service ⟨"app\\mailer", none, none, none⟩,
      .parameter ⟨"locale", some "en", none⟩, .service mailer, .parameter locale], defaultDepth⟩
    (∃ found, Reference.service? " '@?\\APP\\Mailer '\n" = some found
        ∧ c.service? found = some mailer)
      ∧ c.parameter? " '%LOCALE%'\n" = some locale := by
  intro mailer locale c
  let decoration : Text.Decoration :=
    ⟨⟨" ", by decide⟩, some Text.singleQuote, ⟨"\n", by decide⟩, by simp [Text.quotes]⟩
  obtain ⟨hservices, hparameters⟩ := decorated_references_find_definitions
    [.service ⟨"app\\mailer", none, none, none⟩, .parameter ⟨"locale", some "en", none⟩,
      .service mailer, .parameter locale] defaultDepth decoration
  refine ⟨?_, ?_⟩
  · obtain ⟨found, hfound, hservice⟩ :=
      hservices "\\APP\\Mailer " (by decide) (by simp [Text.startsWith]) "@?" (by simp)
    refine ⟨found, hfound, hservice.trans ?_⟩
    decide +kernel
  · have hlocale : ∀ q ∈ Text.quotes, ∀ inner,
        "LOCALE" ≠ String.singleton q ++ inner ++ String.singleton q := by
      intro q hq inner hkey
      have hfirst := congrArg (fun s => s.toList.head?) hkey
      simp at hfirst
      rw [← hfirst] at hq
      exact absurd hq (by decide)
    refine ((hparameters "LOCALE" (by decide) (by simp; decide) hlocale).2).trans ?_
    decide +kernel

end Container

end Signpost
