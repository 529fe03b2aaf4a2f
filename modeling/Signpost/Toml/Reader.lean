/-
`Toml/Reader.lean` -- reading TOML.

The document of a text is built by a machine over its lexemes. It stands in one of a few phases: at
the start of a line, inside a key or a header, before, inside or after a value. A stack holds the
arrays and inline tables that are still open; their number is bounded. Line ends separate
statements, are ignored inside arrays, and may not stand inside inline tables.
-/
import Signpost.Toml.Token
import Signpost.Toml.Scalar
import Signpost.Toml.Section

set_option autoImplicit false

namespace Signpost.Toml

/-- A dotted key in the making: its parts, last first, and whether another part must come. -/
structure Key where
  parts : List String
  expecting : Bool

namespace Key

/-- The key before its first part. -/
def start : Key := ⟨[], true⟩

/-- Whether a word can be part of a key without quotes. -/
def isBare (chars : List Char) : Bool := chars.all fun c => c.isAlphanum || c = '_' || c = '-'

/-- The number of parts that a key must stay below. -/
def maxParts : Nat := 80

/-- Reads a lexeme that belongs to a key. -/
def step (k : Key) : Token → Option Key
  | .gap _ => some k
  | .word chars =>
    if k.expecting && isBare chars then some ⟨.ofList chars :: k.parts, false⟩ else none
  | .text s => if k.expecting then some ⟨s :: k.parts, false⟩ else none
  | .mark '.' => if k.expecting then none else some ⟨k.parts, true⟩
  | _ => none

/-- The path before the last part of a finished key, and that part. -/
def finish? (k : Key) : Option (List String × String) :=
  if k.expecting || maxParts ≤ k.parts.length then none
  else match k.parts with
    | [] => none
    | last :: path => some (path.reverse, last)

end Key

/-- An array or inline table that is still open. -/
inductive Frame where
  /-- The items so far, last first. -/
  | array (items : List Toml)
  /-- The entries so far, and the key whose value comes. -/
  | inline (entries : Item.Entries) (path : List String) (key : String)

/-- Where the machine stands. -/
inductive Phase where
  | lineStart
  /-- After a `[` at the start of a line. -/
  | headerStart
  /-- Inside a header, which may open an element of an array of tables. -/
  | header (element : Bool) (key : Key)
  /-- After the first `]` of a header that ends in two. -/
  | headerEnd (key : Key)
  /-- After a header, before the line end. -/
  | lineEnd
  | key (key : Key)
  /-- Before a value. -/
  | value
  /-- Before a value or the end of an array. -/
  | valueOrEnd
  /-- Inside a word, possibly with dots in it. -/
  | word (chars : List Char)
  /-- After a date and one space, where a time may follow. -/
  | dateGap (chars : List Char)
  /-- After a value. -/
  | after (v : Toml)
  /-- Inside an inline table before a key; `first` tells whether the table may end at once. -/
  | inlineKey (entries : Item.Entries) (key : Key) (first : Bool)

/-- The machine. -/
structure Reader where
  phase : Phase
  stack : List Frame
  /-- The document so far. -/
  entries : Item.Entries
  /-- The path of the header that entries stand under. -/
  current : List String
  /-- The key of the statement at hand. -/
  target : List String × String

namespace Reader

/-- The machine before the first lexeme. -/
def start : Reader := ⟨.lineStart, [], [], [], ([], "")⟩

/-- The number of open arrays and inline tables that must not be reached. -/
def maxDepth : Nat := 80

/-- Whether one more array or inline table may be opened. -/
def mayOpen (r : Reader) : Bool := r.stack.length + 1 < maxDepth

/-- Enters the value of a statement. -/
def commit (r : Reader) (v : Toml) : Option Reader :=
  (Item.inside (Item.assign r.target.1 r.target.2 v) r.current r.entries).map fun entries =>
    { r with entries := entries, phase := .lineStart }

/-- Reads the first lexeme of a value. -/
def openValue (r : Reader) : Token → Option Reader
  | .gap _ => some r
  | .word chars => some { r with phase := .word chars }
  | .text s => some { r with phase := .after (.text s) }
  | .longText s => some { r with phase := .after (.text s) }
  | .mark '[' =>
    if r.mayOpen then some { r with phase := .valueOrEnd, stack := .array [] :: r.stack } else none
  | .mark '\x7b' => if r.mayOpen then some { r with phase := .inlineKey [] .start true } else none
  | .newline =>
    match r.stack with
    | .array _ :: _ => some r
    | _ => none
  | _ => none

/-- Reads a lexeme after a value. -/
def afterValue (r : Reader) (v : Toml) (t : Token) : Option Reader :=
  match t, r.stack with
  | .gap _, _ => some { r with phase := .after v }
  | .newline, [] => r.commit v
  | .newline, .array _ :: _ => some { r with phase := .after v }
  | .mark ',', .array items :: stack =>
    some { r with phase := .valueOrEnd, stack := .array (v :: items) :: stack }
  | .mark ']', .array items :: stack =>
    some { r with phase := .after (.array (v :: items).reverse), stack := stack }
  | .mark ',', .inline entries path key :: stack =>
    (Item.assign path key v entries).map fun entries =>
      { r with phase := .inlineKey entries .start false, stack := stack }
  | .mark '\x7d', .inline entries path key :: stack =>
    (Item.assign path key v entries).map fun entries =>
      { r with phase := .after (.table (Item.entriesToToml entries)), stack := stack }
  | _, _ => none

/-- Ends a word and reads the lexeme after it. -/
def endWord (r : Reader) (chars : List Char) (t : Token) : Option Reader :=
  (ofWord? chars).bind fun v => r.afterValue v t

/-- Opens the table of a header. -/
def openHeader (r : Reader) (element : Bool) (key : Key) : Option Reader :=
  key.finish?.bind fun (path, last) =>
    (if element then Item.openElement path last r.entries
      else Item.openTable path last r.entries).map fun entries =>
        { r with entries := entries, current := path ++ [last], phase := .lineEnd }

/-- Reads one lexeme. -/
def step (r : Reader) (t : Token) : Option Reader :=
  match r.phase, t with
  | .lineStart, .gap _ => some r
  | .lineStart, .newline => some r
  | .lineStart, .mark '[' => some { r with phase := .headerStart }
  | .lineStart, t => (Key.start.step t).map fun key => { r with phase := .key key }
  | .headerStart, .mark '[' => some { r with phase := .header true .start }
  | .headerStart, t => (Key.start.step t).map fun key => { r with phase := .header false key }
  | .header true key, .mark ']' => some { r with phase := .headerEnd key }
  | .header false key, .mark ']' => r.openHeader false key
  | .header element key, t => (key.step t).map fun key => { r with phase := .header element key }
  | .headerEnd key, .mark ']' => r.openHeader true key
  | .headerEnd _, _ => none
  | .lineEnd, .gap _ => some r
  | .lineEnd, .newline => some { r with phase := .lineStart }
  | .lineEnd, _ => none
  | .key key, .mark '=' =>
    key.finish?.map fun target => { r with phase := .value, target := target }
  | .key key, t => (key.step t).map fun key => { r with phase := .key key }
  | .value, t => r.openValue t
  | .valueOrEnd, .mark ']' =>
    match r.stack with
    | .array items :: stack =>
      some { r with phase := .after (.array items.reverse), stack := stack }
    | _ => none
  | .valueOrEnd, t => r.openValue t
  | .word chars, .mark '.' => some { r with phase := .word (chars ++ ['.']) }
  | .word chars, .word more => some { r with phase := .word (chars ++ more) }
  | .word chars, .gap c =>
    if c = ' ' ∧ isDate chars then some { r with phase := .dateGap chars }
    else r.endWord chars (.gap c)
  | .word chars, t => r.endWord chars t
  | .dateGap chars, .word more => some { r with phase := .word (chars ++ ' ' :: more) }
  | .dateGap chars, t => r.endWord chars t
  | .after v, t => r.afterValue v t
  | .inlineKey _ ⟨[], true⟩ true, .mark '\x7d' => some { r with phase := .after (.table []) }
  | .inlineKey entries key _, .mark '=' =>
    key.finish?.map fun (path, last) =>
      { r with phase := .value, stack := .inline entries path last :: r.stack }
  | .inlineKey entries key first, t =>
    (key.step t).map fun key => { r with phase := .inlineKey entries key first }

/-- The document once the lexemes have ended. -/
def finish? (r : Reader) : Option Toml :=
  match r.phase with
  | .lineStart | .lineEnd => some (.table (Item.entriesToToml r.entries))
  | _ => none

end Reader

/-- The mark that may stand before the first character of a file. -/
def byteOrderMark : Char := '\uFEFF'

/-- The document that a text denotes. The last line may lack its end. -/
def parse? (s : String) : Option Toml := do
  let tokens ← Token.scan? (Text.dropOneChars byteOrderMark s.toList)
  let r ← (tokens ++ [Token.newline]).foldlM Reader.step .start
  r.finish?

end Signpost.Toml
