/-
`Toml/Printer.lean` -- writing TOML.

A table is written as its plain entries, a line each, followed by a section for each table in it,
with an empty line between sections. An array of more than one item has a line for each item. A
string is written in the first of these forms that needs no escapes: in double quotes, in single
quotes, in three double quotes, in three single quotes; if all need some, in double quotes, three of
them if the string has line ends.
-/
import Signpost.Toml.Value
import Signpost.Text.Quoted

set_option autoImplicit false

namespace Signpost.Toml

/-! ## Strings -/

/-- The length of the longest run of a character. -/
def longestRun (c : Char) (cs : List Char) : Nat :=
  (cs.foldl (fun (run, best) d => if d = c then (run + 1, max best (run + 1)) else (0, best))
    (0, 0)).2

/-- Whether a character can only be written by an escape. -/
def needsCode (c : Char) : Bool := (c.toNat < 32 && c ≠ '\t' && c ≠ '\n') || c.toNat = 127

/-- The four ways of writing a string. -/
inductive Quoting where
  | basic
  | literal
  | longBasic
  | longLiteral
  deriving DecidableEq, Repr

/-- The way in which a string is written. -/
def quotingOf (cs : List Char) : Quoting :=
  let codes := cs.any needsCode
  let escapes := cs.contains '\\'
  let lines := cs.contains '\n'
  let doubles := longestRun Text.doubleQuote cs
  let singles := longestRun Text.singleQuote cs
  if !codes && !escapes && doubles = 0 && !lines then .basic
  else if !codes && singles = 0 && !lines then .literal
  else if !codes && !escapes && doubles ≤ 2 then .longBasic
  else if !codes && singles ≤ 2 then .longLiteral
  else if lines then .longBasic
  else .basic

/-- The digits of a number to base 16 in capitals, with zeros in front up to four digits. -/
def codeDigits (n : Nat) : String := .ofList ((Text.hex4 n).toList.map Char.toUpper)

/-- How a character other than a quote or a line end is written between double quotes. -/
def escapedChar (c : Char) : String :=
  if c = '\x08' then "\\b"
  else if c = '\t' then "\\t"
  else if c = '\n' then "\\n"
  else if c = '\x0c' then "\\f"
  else if c = '\r' then "\\r"
  else if c = '\\' then "\\\\"
  else if c.toNat < 32 || c.toNat = 127 then "\\u" ++ codeDigits c.toNat
  else c.toString

/-- The characters between double quotes. A quote is escaped once more than `allowed` of them would
stand in a row, and line ends are kept if the string is a long one. -/
def escapedChars (allowed : Nat) (long : Bool) (run : Nat) : List Char → String
  | [] => ""
  | c :: rest =>
    if c = Text.doubleQuote then
      if run < allowed then "\"" ++ escapedChars allowed long (run + 1) rest
      else "\\\"" ++ escapedChars allowed long 0 rest
    else if c = '\n' ∧ long then "\n" ++ escapedChars allowed long 0 rest
    else escapedChar c ++ escapedChars allowed long 0 rest

/-- A string. A long one with line ends starts on a line of its own. -/
def quote (s : String) : String :=
  let cs := s.toList
  let lead := if cs.contains '\n' then "\n" else ""
  match quotingOf cs with
  | .basic => "\"" ++ escapedChars 0 false 0 cs ++ "\""
  | .literal => "'" ++ s ++ "'"
  | .longBasic => "\"\"\"" ++ lead ++ escapedChars 2 true 0 cs ++ "\"\"\""
  | .longLiteral => "'''" ++ lead ++ s ++ "'''"

/-! ## Values and sections -/

/-- A key, in quotes unless it is a plain word. -/
def printKey (key : String) : String :=
  if !key.isEmpty && key.toList.all (fun c => c.isAlphanum || c = '_' || c = '-') then key
  else quote key

mutual

/-- A value on one line. -/
def inline : Toml → String
  | .bool true => "true"
  | .bool false => "false"
  | .int n => if 0 ≤ n then n.toNat.repr else "-" ++ (-n).toNat.repr
  | .float literal => literal
  | .text s => quote s
  | .date literal => literal
  | .array items => "[" ++ ", ".intercalate (inlineItems items) ++ "]"
  | .table [] => "\x7b\x7d"
  | .table entries => "\x7b " ++ ", ".intercalate (inlineEntries entries) ++ " \x7d"

/-- The items, each on one line. -/
def inlineItems : List Toml → List String
  | [] => []
  | v :: rest => inline v :: inlineItems rest

/-- The entries, each on one line. -/
def inlineEntries : List (String × Toml) → List String
  | [] => []
  | (key, v) :: rest => (printKey key ++ " = " ++ inline v) :: inlineEntries rest

end

/-- A value after its key. -/
def printValue : Toml → String
  | .array (first :: second :: rest) =>
    "[\n" ++ String.join ((inlineItems (first :: second :: rest)).map fun item =>
      "    " ++ item ++ ",\n") ++ "]"
  | v => inline v

/-- The lines of the entries that are no tables. -/
def plainLines (entries : List (String × Toml)) : String :=
  String.join (entries.map fun
    | (_, .table _) => ""
    | (key, v) => printKey key ++ " = " ++ printValue v ++ "\n")

/-- The sections of the tables among the entries, in order, each with its header. The tables of
settings hold no tables themselves, so those are written on one line. -/
def sections (entries : List (String × Toml)) : List String :=
  entries.filterMap fun
    | (key, .table inner) =>
      some ("[" ++ printKey key ++ "]\n"
        ++ String.join (inner.map fun (k, v) => printKey k ++ " = " ++ printValue v ++ "\n"))
    | _ => none

/-- The text of a document. -/
def print (entries : List (String × Toml)) : String :=
  let plain := plainLines entries
  "\n".intercalate ((if plain.isEmpty then [] else [plain]) ++ sections entries)

end Signpost.Toml
