/-
`Proofs/Index/Key.lean` -- what the key of a service keeps.

A service is found under a key that forgets a good deal of the id: blanks, one pair of quotes, one
`@`, one namespace separator, and case. What it does not forget is every character that none of
these steps is about. Such a character is `Kept` here, and it occurs in the key as often as in the
id; in particular an id that holds one has a key, and two ids that disagree about one of them are
never the same service. That is all it takes to tell ids apart without knowing their keys.
-/
import Signpost.Index.Record
import Signpost.Signature
import Signpost.Proofs.Text

set_option autoImplicit false

namespace Signpost.ServiceKey

/-- No step from an id to its key is about the character. -/
structure Kept (c : Char) : Prop where
  notBlank : Text.isBlank c = false
  ne_doubleQuote : c ≠ Text.doubleQuote
  ne_singleQuote : c ≠ Text.singleQuote
  ne_at : c ≠ '@'
  ne_separator : c ≠ ClassName.separator
  caseless : Text.isCaseless c = true

/-- The mark of a reference is kept. -/
theorem kept_deferredMark : Kept Signature.deferredMark where
  notBlank := by decide
  ne_doubleQuote := by decide
  ne_singleQuote := by decide
  ne_at := by decide
  ne_separator := by decide
  caseless := by decide +kernel

/-- So is the mark of a union. -/
theorem kept_unionMark : Kept Signature.unionMark where
  notBlank := by decide
  ne_doubleQuote := by decide
  ne_singleQuote := by decide
  ne_at := by decide
  ne_separator := by decide
  caseless := by decide +kernel

/-- The id without what its key forgets, before it is lowered. -/
def bareChars (cs : List Char) : List Char :=
  Text.dropOneChars ClassName.separator
    (Text.trimChars (Text.dropOneChars '@' (Text.unquoteChars (Text.trimChars cs))))

theorem count_bareChars {c : Char} (hc : Kept c) (cs : List Char) :
    (bareChars cs).count c = cs.count c := by
  rw [bareChars, Text.count_dropOneChars hc.ne_separator, Text.count_trimChars hc.notBlank,
    Text.count_dropOneChars hc.ne_at, Text.count_unquoteChars hc.ne_doubleQuote hc.ne_singleQuote,
    Text.count_trimChars hc.notBlank]

/-- **The key, characterised.** An id has one exactly when something of it is left, and the key is
the lowercase of that. -/
theorem ofText?_eq_some_iff {raw : String} {key : ServiceKey} :
    ofText? raw = some key ↔
      bareChars raw.toList ≠ []
        ∧ key.text.toList = Text.lowerChars [] (bareChars raw.toList) := by
  obtain ⟨text⟩ := key
  have hbare : (Text.dropOne ClassName.separator
      (Text.trim (Text.dropOne '@' (Text.unquote (Text.trim raw))))).toList
        = bareChars raw.toList := by
    rw [Text.toList_dropOne, Text.toList_trim, Text.toList_dropOne, Text.toList_unquote,
      Text.toList_trim, bareChars]
  rw [ofText?, ← hbare]
  generalize Text.dropOne ClassName.separator
    (Text.trim (Text.dropOne '@' (Text.unquote (Text.trim raw)))) = bare
  rw [ne_eq, String.toList_eq_nil_iff]
  by_cases hempty : bare = ""
  · rw [if_pos (String.isEmpty_iff.mpr hempty)]
    constructor
    · intro h
      cases h
    · intro h
      exact absurd hempty h.1
  · rw [if_neg fun h => hempty (String.isEmpty_iff.mp h), Option.some.injEq, mk.injEq,
      ← String.toList_inj, Text.toList_lower]
    constructor
    · intro h
      exact ⟨hempty, h.symm⟩
    · intro h
      exact h.2.symm

/-- A kept character occurs in the key as often as in the id. -/
theorem count_of_ofText? {c : Char} (hc : Kept c) {raw : String} {key : ServiceKey}
    (h : ofText? raw = some key) : key.text.toList.count c = raw.toList.count c := by
  rw [(ofText?_eq_some_iff.mp h).2, Text.count_lowerChars hc.caseless, count_bareChars hc]

/-- An id that holds a kept character has a key. -/
theorem exists_ofText? {c : Char} (hc : Kept c) {raw : String} (hmem : c ∈ raw.toList) :
    ∃ key, ofText? raw = some key := by
  have hbare : c ∈ bareChars raw.toList := by
    rw [← List.count_pos_iff, count_bareChars hc, List.count_pos_iff]
    exact hmem
  refine ⟨⟨.ofList (Text.lowerChars [] (bareChars raw.toList))⟩, ofText?_eq_some_iff.mpr ?_⟩
  exact ⟨List.ne_nil_of_mem hbare, String.toList_ofList⟩

/-- Ids of one service agree on every kept character. -/
theorem ofText?_ne_of_count_ne {c : Char} (hc : Kept c) {raw other : String} {key : ServiceKey}
    (h : ofText? raw = some key) (hcount : other.toList.count c ≠ raw.toList.count c) :
    ofText? other ≠ some key := by
  intro hother
  rw [← count_of_ofText? hc h, ← count_of_ofText? hc hother] at hcount
  exact hcount rfl

end Signpost.ServiceKey
