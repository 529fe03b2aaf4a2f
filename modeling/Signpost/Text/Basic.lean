/-
`Text/Basic.lean` -- characters and texts.

What every reader of texts here shares. A property of characters is a table of ranges of code
points; the first of them is white space, which trimming removes at both ends of a text and nowhere
else. The rest of the file takes texts apart: dropping a leading mark, cutting at the first or the
last occurrence of a separator, and removing one pair of quotes. Each is defined on the list of
characters, where it has a one-line law; the `String` forms only wrap them.
-/

set_option autoImplicit false

namespace Signpost.Text

/-! ## Ranges of code points

Membership walks the table and stops at the first range that lies above the code point, so a table
in any other order would answer too little; every table of this library is written in order. -/

/-- Inclusive ranges of code points, lowest first. -/
abbrev Ranges := List (Nat × Nat)

/-- Whether one of the ranges holds the code point. -/
def Ranges.contains : Ranges → Nat → Bool
  | [], _ => false
  | (lo, hi) :: rest, n => if n < lo then false else if n ≤ hi then true else contains rest n

/-! ## White space

The `White_Space` property of the Unicode standard also holds the no-break space, the ideographic
space and the line and paragraph separators. -/

/-- The code points with the `White_Space` property. -/
def blankRanges : Ranges :=
  [(0x9, 0xD), (0x20, 0x20), (0x85, 0x85), (0xA0, 0xA0), (0x1680, 0x1680), (0x2000, 0x200A),
   (0x2028, 0x2029), (0x202F, 0x202F), (0x205F, 0x205F), (0x3000, 0x3000)]

/-- Whether a character is white space. -/
def isBlank (c : Char) : Bool := blankRanges.contains c.toNat

/-- A text without the white space at its start. -/
def trimStartChars (cs : List Char) : List Char := cs.dropWhile isBlank

/-- A text without the white space at its end. -/
def trimEndChars (cs : List Char) : List Char := (cs.reverse.dropWhile isBlank).reverse

/-- A text without the white space at both ends. -/
def trimChars (cs : List Char) : List Char := trimEndChars (trimStartChars cs)

/-- A text without the white space at both ends. -/
def trim (s : String) : String := .ofList (trimChars s.toList)

@[simp] theorem toList_trim (s : String) : (trim s).toList = trimChars s.toList := by
  simp [trim]

@[simp] theorem trimChars_nil : trimChars [] = [] := rfl

/-! ## Leading and trailing marks -/

/-- What follows the given start of a text, if the text starts so. -/
def after? (start s : String) : Option String :=
  (start.toList.isPrefixOf? s.toList).map .ofList

/-- What precedes the given end of a text, if the text ends so. -/
def before? (stop s : String) : Option String :=
  (stop.toList.isSuffixOf? s.toList).map .ofList

/-- Whether a text starts with a character. -/
def startsWith (c : Char) (s : String) : Bool := s.toList.head? == some c

/-- A text without its first character, if that is the given one. -/
def dropOneChars (c : Char) : List Char → List Char
  | [] => []
  | d :: cs => if d = c then cs else d :: cs

/-- A text without its first character, if that is the given one. -/
def dropOne (c : Char) (s : String) : String := .ofList (dropOneChars c s.toList)

/-- A text without all leading occurrences of a character. -/
def dropLeading (c : Char) (s : String) : String := .ofList (s.toList.dropWhile (· == c))

/-- A text without all leading and all trailing occurrences of a character. -/
def dropAround (c : Char) (s : String) : String :=
  .ofList ((s.toList.dropWhile (· == c)).reverse.dropWhile (· == c)).reverse

@[simp] theorem toList_dropOne (c : Char) (s : String) :
    (dropOne c s).toList = dropOneChars c s.toList := by
  simp [dropOne]

@[simp] theorem toList_dropLeading (c : Char) (s : String) :
    (dropLeading c s).toList = s.toList.dropWhile (· == c) := by
  simp [dropLeading]

/-! ## Separators -/

/-- The parts of a text between the separators. Empty parts are kept, also at both ends. -/
def split (separator : Char) (s : String) : List String :=
  (s.toList.splitOn separator).map .ofList

/-- The characters before and after the first separator. -/
def cutChars? (separator : Char) : List Char → Option (List Char × List Char)
  | [] => none
  | c :: cs =>
    if c = separator then some ([], cs)
    else (cutChars? separator cs).map fun (left, right) => (c :: left, right)

/-- The texts before and after the first separator. -/
def cut? (separator : Char) (s : String) : Option (String × String) :=
  (cutChars? separator s.toList).map fun (left, right) => (.ofList left, .ofList right)

/-- A cut loses the separator and nothing else. -/
theorem eq_append_of_cutChars? {d : Char} {cs left right : List Char}
    (h : cutChars? d cs = some (left, right)) : cs = left ++ d :: right := by
  induction cs generalizing left with
  | nil => simp [cutChars?] at h
  | cons c cs ih =>
    rw [cutChars?] at h
    split at h
    · next hc => simp_all
    · simp only [Option.map_eq_some_iff, Prod.mk.injEq, Prod.exists] at h
      obtain ⟨l, r, hlr, rfl, rfl⟩ := h
      simp [← ih hlr]

/-- The left part of a cut holds no separator. -/
theorem notMem_of_cutChars? {d : Char} {cs left right : List Char}
    (h : cutChars? d cs = some (left, right)) : d ∉ left := by
  induction cs generalizing left with
  | nil => simp [cutChars?] at h
  | cons c cs ih =>
    rw [cutChars?] at h
    split at h
    · simp_all
    · next hc =>
      simp only [Option.map_eq_some_iff, Prod.mk.injEq, Prod.exists] at h
      obtain ⟨l, r, hlr, rfl, rfl⟩ := h
      simp [ih hlr, Ne.symm hc]

/-- The characters before and after the last occurrence of a separator text: a later occurrence is
looked for before the one at hand is taken. -/
def cutLastChars? (separator : List Char) : List Char → Option (List Char × List Char)
  | [] => none
  | c :: cs =>
    match cutLastChars? separator cs with
    | some (left, right) => some (c :: left, right)
    | none => (separator.isPrefixOf? (c :: cs)).map fun right => ([], right)

/-- The texts before and after the last occurrence of a separator text. -/
def cutLast? (separator s : String) : Option (String × String) :=
  (cutLastChars? separator.toList s.toList).map fun (left, right) => (.ofList left, .ofList right)

/-- The part of a text after the last occurrence of a character; the whole text if there is none. -/
def lastPart (separator : Char) (s : String) : String :=
  .ofList (s.toList.reverse.takeWhile (· != separator)).reverse

/-! ## Quotes -/

/-- The double quotation mark. -/
def doubleQuote : Char := '\x22'

/-- The single quotation mark. -/
def singleQuote : Char := '\x27'

/-- A text without one pair of matching quotes around it. A lone quote is no pair. -/
def unquoteChars : List Char → List Char
  | [] => []
  | q :: rest =>
    if (q = doubleQuote ∨ q = singleQuote) ∧ rest.getLast? = some q then rest.dropLast
    else q :: rest

/-- A text without one pair of matching quotes around it. -/
def unquote (s : String) : String := .ofList (unquoteChars s.toList)

@[simp] theorem toList_unquote (s : String) : (unquote s).toList = unquoteChars s.toList := by
  simp [unquote]

end Signpost.Text
