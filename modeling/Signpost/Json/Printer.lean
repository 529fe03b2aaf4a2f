/-
`Json/Printer.lean` -- writing JSON.

Two layouts of a value: the compact one without any blanks, and the indented one with two spaces a
level, a line per item and field, and empty arrays and objects kept closed. Strings escape the
quotation mark, the backslash and the control characters, and nothing else.
-/
import Signpost.Json.Value
import Signpost.Text.Quoted

set_option autoImplicit false

namespace Signpost.Json

/-- How one character stands in a string. -/
def escapedChar (c : Char) : String :=
  if c = Text.doubleQuote then "\\\""
  else if c = '\\' then "\\\\"
  else if c = '\x08' then "\\b"
  else if c = '\x0c' then "\\f"
  else if c = '\n' then "\\n"
  else if c = '\r' then "\\r"
  else if c = '\t' then "\\t"
  else if c.toNat < 32 then "\\u" ++ Text.hex4 c.toNat
  else c.toString

/-- A string literal. -/
def quote (s : String) : String := "\"" ++ String.join (s.toList.map escapedChar) ++ "\""

mutual

/-- The value on one line without blanks. -/
def compact : Json → String
  | .null => "null"
  | .bool true => "true"
  | .bool false => "false"
  | .nat n => n.repr
  | .num literal => literal
  | .str s => quote s
  | .illFormed => "null"
  | .arr items => "[" ++ ",".intercalate (compactItems items) ++ "]"
  | .obj fields => "\x7b" ++ ",".intercalate (compactFields fields) ++ "\x7d"

/-- The items, each on one line without blanks. -/
def compactItems : List Json → List String
  | [] => []
  | v :: rest => compact v :: compactItems rest

/-- The fields, each on one line without blanks. -/
def compactFields : List (String × Json) → List String
  | [] => []
  | (k, v) :: rest => (quote k ++ ":" ++ compact v) :: compactFields rest

end

/-- The start of a line at an indentation level. -/
def newline (level : Nat) : String := "\n" ++ .ofList (List.replicate (2 * level) ' ')

/-- Lines between brackets, or the closed brackets if there are none. -/
def bracketed (opening closing : String) (level : Nat) (lines : List String) : String :=
  if lines.isEmpty then opening ++ closing
  else opening ++ newline (level + 1) ++ ("," ++ newline (level + 1)).intercalate lines
    ++ newline level ++ closing

mutual

/-- The value with a line per item and field, its own first line standing at the given level. -/
def indented (level : Nat) : Json → String
  | .arr items => bracketed "[" "]" level (indentedItems (level + 1) items)
  | .obj fields => bracketed "\x7b" "\x7d" level (indentedFields (level + 1) fields)
  | v => compact v

/-- The items, each starting at the given level. -/
def indentedItems (level : Nat) : List Json → List String
  | [] => []
  | v :: rest => indented level v :: indentedItems level rest

/-- The fields, each starting at the given level. -/
def indentedFields (level : Nat) : List (String × Json) → List String
  | [] => []
  | (k, v) :: rest => (quote k ++ ": " ++ indented level v) :: indentedFields level rest

end

/-- The value with a line per item and field. -/
def pretty (v : Json) : String := indented 0 v

end Signpost.Json
