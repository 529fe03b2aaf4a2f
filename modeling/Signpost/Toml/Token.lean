/-
`Toml/Token.lean` -- TOML lexemes.

A TOML text is read one character at a time. Outside strings and comments a character is a mark, a
blank, a line end or part of a word. A string is of one line or of several; in the latter up to two
quotes may stand anywhere, also just before the three that end it. Line ends are read as a single
line feed, and a carriage return may stand nowhere else.
-/
import Signpost.Text.Basic
import Signpost.Json.Token

set_option autoImplicit false

namespace Signpost.Toml

/-- A lexeme. -/
inductive Token where
  /-- A blank inside a line, which is a space or a tab. -/
  | gap (c : Char)
  | newline
  /-- One of `=`, `.`, `,` and the brackets. -/
  | mark (c : Char)
  /-- A run of letters, digits and the signs of numbers and dates. -/
  | word (chars : List Char)
  /-- A string of one line. -/
  | text (s : String)
  /-- A string of several lines. -/
  | longText (s : String)

namespace Token

/-- The text with every line end as a line feed. -/
def unixLines? : List Char → Option (List Char)
  | [] => some []
  | '\r' :: '\n' :: rest => (unixLines? rest).map ('\n' :: ·)
  | c :: rest => if c = '\r' then none else (unixLines? rest).map (c :: ·)

/-- Whether the character may stand in a comment or, quotes and backslashes apart, in a string. -/
def isPlain (c : Char) : Bool := c = '\t' || (32 ≤ c.toNat && c.toNat ≠ 127)

/-- Whether the character may stand in a word. -/
def isWordChar (c : Char) : Bool := c.isAlphanum || c = '_' || c = '-' || c = '+' || c = ':'

/-- Whether the character is a mark. -/
def isMark (c : Char) : Bool :=
  c = '=' || c = '.' || c = ',' || c = '[' || c = ']' || c = '\x7b' || c = '\x7d'

/-- Where the scanner stands. Characters of strings and words are held last first. -/
inductive Mode where
  | between
  | word (chars : List Char)
  | comment
  /-- After one or two opening quotes. -/
  | opening (quote : Char) (count : Nat)
  | basic (chars : List Char)
  | literal (chars : List Char)
  /-- After a backslash in a string, which may be a long one. -/
  | escape (long : Bool) (chars : List Char)
  /-- Inside a numeric escape, with the number of digits to come and the value of those read. -/
  | code (long : Bool) (chars : List Char) (missing value : Nat)
  /-- Just after three opening quotes. -/
  | longStart (quote : Char)
  /-- Inside a long string, just after the given number of quotes. -/
  | long (quote : Char) (chars : List Char) (quotes : Nat)
  /-- After a backslash and blanks in a long string, before the line end that must come. -/
  | joinGap (chars : List Char)
  /-- After a backslash at the end of a line in a long string. -/
  | join (chars : List Char)

/-- The scanner: its mode and the lexemes so far, last first. -/
structure Scanner where
  mode : Mode
  tokens : List Token

/-- The character that a one-letter escape stands for. -/
def escaped? (c : Char) : Option Char := if c = '/' then none else Json.Token.escaped? c

namespace Scanner

/-- The scanner before the first character. -/
def start : Scanner := ⟨.between, []⟩

/-- Adds a lexeme and stands between lexemes. -/
def emit (s : Scanner) (t : Token) : Scanner := ⟨.between, t :: s.tokens⟩

/-- Reads a character outside strings and comments. -/
def outside (s : Scanner) (c : Char) : Option Scanner :=
  if c = ' ' ∨ c = '\t' then some (s.emit (.gap c))
  else if c = '\n' then some (s.emit .newline)
  else if c = '#' then some { s with mode := .comment }
  else if c = Text.doubleQuote ∨ c = Text.singleQuote then some { s with mode := .opening c 1 }
  else if isMark c then some (s.emit (.mark c))
  else if isWordChar c then some { s with mode := .word [c] }
  else none

/-- Reads a character of a string of one line in double quotes. -/
def insideBasic (s : Scanner) (chars : List Char) (c : Char) : Option Scanner :=
  if c = Text.doubleQuote then some (s.emit (.text (.ofList chars.reverse)))
  else if c = '\\' then some { s with mode := .escape false chars }
  else if isPlain c then some { s with mode := .basic (c :: chars) }
  else none

/-- Reads a character of a string of one line in single quotes. -/
def insideLiteral (s : Scanner) (chars : List Char) (c : Char) : Option Scanner :=
  if c = Text.singleQuote then some (s.emit (.text (.ofList chars.reverse)))
  else if isPlain c then some { s with mode := .literal (c :: chars) }
  else none

/-- A long string that ends after the given number of quotes, of which the last three end it. -/
def endLong (s : Scanner) (quote : Char) (chars : List Char) (quotes : Nat) : Scanner :=
  s.emit (.longText (.ofList (List.replicate (quotes - 3) quote ++ chars).reverse))

/-- Reads a character of a long string. -/
def insideLong (s : Scanner) (quote : Char) (chars : List Char) (quotes : Nat) (c : Char) :
    Option Scanner :=
  if c = quote then
    if quotes = 4 then some (s.endLong quote chars 5)
    else some { s with mode := .long quote chars (quotes + 1) }
  else if 3 ≤ quotes then (s.endLong quote chars quotes).outside c
  else
    let chars := List.replicate quotes quote ++ chars
    if c = '\\' ∧ quote = Text.doubleQuote then some { s with mode := .escape true chars }
    else if isPlain c ∨ c = '\n' then some { s with mode := .long quote (c :: chars) 0 }
    else none

/-- The mode inside a string in double quotes. -/
def resume (long : Bool) (chars : List Char) : Mode :=
  if long then .long Text.doubleQuote chars 0 else .basic chars

/-- Reads a character after a backslash. -/
def afterBackslash (s : Scanner) (long : Bool) (chars : List Char) (c : Char) : Option Scanner :=
  if c = 'u' then some { s with mode := .code long chars 4 0 }
  else if c = 'U' then some { s with mode := .code long chars 8 0 }
  else if long ∧ (c = ' ' ∨ c = '\t') then some { s with mode := .joinGap chars }
  else if long ∧ c = '\n' then some { s with mode := .join chars }
  else (escaped? c).map fun d => { s with mode := resume long (d :: chars) }

/-- Reads a digit of a numeric escape. The number has to be that of a character. -/
def insideCode (s : Scanner) (long : Bool) (chars : List Char) (missing value : Nat) (c : Char) :
    Option Scanner :=
  (Json.Token.hexDigit? c).bind fun digit =>
    let value := value * 16 + digit
    if 1 < missing then some { s with mode := .code long chars (missing - 1) value }
    else if value.isValidChar then some { s with mode := resume long (Char.ofNat value :: chars) }
    else none

/-- Reads one character. -/
def step (s : Scanner) (c : Char) : Option Scanner :=
  match s.mode with
  | .between => s.outside c
  | .word chars =>
    if isWordChar c then some { s with mode := .word (c :: chars) }
    else (s.emit (.word chars.reverse)).outside c
  | .comment =>
    if c = '\n' then some (s.emit .newline) else if isPlain c then some s else none
  | .opening quote count =>
    if c = quote then
      if count = 1 then some { s with mode := .opening quote 2 }
      else some { s with mode := .longStart quote }
    else if count = 2 then (s.emit (.text "")).outside c
    else if quote = Text.doubleQuote then s.insideBasic [] c
    else s.insideLiteral [] c
  | .basic chars => s.insideBasic chars c
  | .literal chars => s.insideLiteral chars c
  | .escape long chars => s.afterBackslash long chars c
  | .code long chars missing value => s.insideCode long chars missing value c
  | .longStart quote =>
    if c = '\n' then some { s with mode := .long quote [] 0 } else s.insideLong quote [] 0 c
  | .long quote chars quotes => s.insideLong quote chars quotes c
  | .joinGap chars =>
    if c = ' ' ∨ c = '\t' then some s
    else if c = '\n' then some { s with mode := .join chars }
    else none
  | .join chars =>
    if c = ' ' ∨ c = '\t' ∨ c = '\n' then some s
    else s.insideLong Text.doubleQuote chars 0 c

/-- The lexemes once the text has ended. -/
def finish? (s : Scanner) : Option (List Token) :=
  match s.mode with
  | .between => some s.tokens.reverse
  | .comment => some s.tokens.reverse
  | .word chars => some (s.emit (.word chars.reverse)).tokens.reverse
  | .opening _ 2 => some (s.emit (.text "")).tokens.reverse
  | .long quote chars quotes =>
    if 3 ≤ quotes then some (s.endLong quote chars quotes).tokens.reverse else none
  | _ => none

end Scanner

/-- The lexemes of a text. -/
def scan? (cs : List Char) : Option (List Token) := do
  let cs ← unixLines? cs
  let s ← cs.foldlM Scanner.step .start
  s.finish?

end Token

end Signpost.Toml
