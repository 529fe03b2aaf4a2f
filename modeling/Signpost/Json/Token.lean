/-
`Json/Token.lean` -- JSON lexemes.

A JSON text is read one character at a time by a machine that stands either between lexemes, inside
a word (a number, `true`, `false` or `null`), or inside a string. A string collects its characters
as they are decoded, remembers a high surrogate that waits for its low half, and remembers whether a
half was ever left alone.
-/
import Signpost.Json.Value
import Signpost.Text.Basic

set_option autoImplicit false

namespace Signpost.Json

/-- A lexeme. -/
inductive Token where
  | openBracket
  | closeBracket
  | openBrace
  | closeBrace
  | colon
  | comma
  /-- A whole value that is no array and no object. -/
  | atom (value : Json)

namespace Token

/-- What is known of a string that is being read. -/
structure Literal where
  /-- The characters so far, last first. -/
  chars : List Char
  /-- A high surrogate that the next escape has to complete. -/
  high : Option Nat
  /-- Whether a surrogate was left without its other half. -/
  broken : Bool

namespace Literal

/-- The empty string. -/
def start : Literal := ⟨[], none, false⟩

/-- Adds a character; a waiting high surrogate stays alone. -/
def push (s : Literal) (c : Char) : Literal := ⟨c :: s.chars, none, s.broken || s.high.isSome⟩

/-- Adds a code unit given by an escape. -/
def pushUnit (s : Literal) (u : Nat) : Literal :=
  if 0xDC00 ≤ u ∧ u ≤ 0xDFFF then
    match s.high with
    | some h =>
      ⟨Char.ofNat (0x10000 + (h - 0xD800) * 0x400 + (u - 0xDC00)) :: s.chars, none, s.broken⟩
    | none => { s with broken := true }
  else if 0xD800 ≤ u ∧ u ≤ 0xDBFF then
    ⟨s.chars, some u, s.broken || s.high.isSome⟩
  else s.push (Char.ofNat u)

/-- The value of a finished string. -/
def value (s : Literal) : Json :=
  if s.broken || s.high.isSome then .illFormed else .str (.ofList s.chars.reverse)

end Literal

/-- Where the machine stands. -/
inductive Mode where
  | between
  /-- Inside a word, its characters last first. -/
  | word (chars : List Char)
  | text (s : Literal)
  /-- After a backslash. -/
  | escape (s : Literal)
  /-- After `\u`, with the number of digits still to come and the value of those read. -/
  | unit (s : Literal) (missing value : Nat)

/-- The machine: its mode and the lexemes so far, last first. -/
structure Scanner where
  mode : Mode
  tokens : List Token

/-- The value of a word. -/
def ofWord? (chars : List Char) : Option Json :=
  if chars = "null".toList then some .null
  else if chars = "true".toList then some (.bool true)
  else if chars = "false".toList then some (.bool false)
  else ofNumber? chars

/-- The value of a hexadecimal digit. -/
def hexDigit? (c : Char) : Option Nat :=
  if c.isDigit then some (c.toNat - 48)
  else if 'a' ≤ c ∧ c ≤ 'f' then some (c.toNat - 87)
  else if 'A' ≤ c ∧ c ≤ 'F' then some (c.toNat - 55)
  else none

/-- The character that a one-letter escape stands for. -/
def escaped? (c : Char) : Option Char :=
  match c with
  | '\x22' => some '\x22'
  | '\\' => some '\\'
  | '/' => some '/'
  | 'b' => some '\x08'
  | 'f' => some '\x0c'
  | 'n' => some '\n'
  | 'r' => some '\r'
  | 't' => some '\t'
  | _ => none

/-- The lexeme that a punctuation mark is. -/
def ofMark? (c : Char) : Option Token :=
  match c with
  | '[' => some .openBracket
  | ']' => some .closeBracket
  | '\x7b' => some .openBrace
  | '\x7d' => some .closeBrace
  | ':' => some .colon
  | ',' => some .comma
  | _ => none

/-- Whether the character may stand between lexemes. -/
def isGap (c : Char) : Bool := c = ' ' || c = '\t' || c = '\n' || c = '\r'

namespace Scanner

/-- The machine before the first character. -/
def start : Scanner := ⟨.between, []⟩

/-- Reads a character that is not inside a lexeme. -/
def outside (s : Scanner) (c : Char) : Scanner :=
  if isGap c then { s with mode := .between }
  else if c = Text.doubleQuote then { s with mode := .text .start }
  else match ofMark? c with
    | some t => ⟨.between, t :: s.tokens⟩
    | none => { s with mode := .word [c] }

/-- Whether the character ends a word. -/
def endsWord (c : Char) : Bool := isGap c || c = Text.doubleQuote || (ofMark? c).isSome

/-- Reads one character. -/
def step (s : Scanner) (c : Char) : Option Scanner :=
  match s.mode with
  | .between => some (s.outside c)
  | .word chars =>
    if endsWord c then
      (ofWord? chars.reverse).map fun v => outside ⟨.between, .atom v :: s.tokens⟩ c
    else some { s with mode := .word (c :: chars) }
  | .text t =>
    if c = Text.doubleQuote then some ⟨.between, .atom t.value :: s.tokens⟩
    else if c = '\\' then some { s with mode := .escape t }
    else if c.toNat < 32 then none
    else some { s with mode := .text (t.push c) }
  | .escape t =>
    if c = 'u' then some { s with mode := .unit t 4 0 }
    else (escaped? c).map fun d => { s with mode := .text (t.push d) }
  | .unit t missing value =>
    (hexDigit? c).map fun d =>
      let value := value * 16 + d
      if missing ≤ 1 then { s with mode := .text (t.pushUnit value) }
      else { s with mode := .unit t (missing - 1) value }

/-- The lexemes once the text has ended. -/
def finish? (s : Scanner) : Option (List Token) :=
  match s.mode with
  | .between => some s.tokens.reverse
  | .word chars => (ofWord? chars.reverse).map fun v => (.atom v :: s.tokens).reverse
  | _ => none

end Scanner

/-- The lexemes of a text. -/
def scan? (cs : List Char) : Option (List Token) :=
  cs.foldlM Scanner.step .start >>= Scanner.finish?

end Token

end Signpost.Json
