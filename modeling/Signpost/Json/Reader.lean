/-
`Json/Reader.lean` -- reading JSON.

The value of a text is built by a machine over its lexemes. A stack holds the arrays and objects
that are still open, so no nesting is too deep. At any time the machine waits for a value, for a
field name, for the colon after it, or for what may follow a finished value.
-/
import Signpost.Json.Token

set_option autoImplicit false

namespace Signpost.Json

/-- An array or object that is still open; items and fields are held last first. -/
inductive Frame where
  | array (items : List Json)
  /-- `broken` tells whether a field name denoted no text. -/
  | object (fields : List (String × Json)) (broken : Bool)
  /-- An object whose field of this name waits for its value. -/
  | field (fields : List (String × Json)) (broken : Bool) (name : String)

/-- What the machine waits for. -/
inductive Expect where
  | value
  /-- A value, or the end of an array that has just been opened. -/
  | valueOrEnd
  | name
  /-- A field name, or the end of an object that has just been opened. -/
  | nameOrEnd
  /-- The colon after a field name; none stands for a name that denotes no text. -/
  | colon (name : Option String)
  /-- Anything that may follow the given finished value. -/
  | follow (value : Json)

/-- The machine: what it waits for, and the open frames, innermost first. -/
structure Reader where
  expect : Expect
  stack : List Frame

namespace Reader

/-- The machine before the first lexeme. -/
def start : Reader := ⟨.value, []⟩

/-- The value of a finished object. -/
def closed (fields : List (String × Json)) (broken : Bool) : Json :=
  if broken then .illFormed else .obj fields.reverse

/-- Reads the first lexeme of a value. -/
def openValue (stack : List Frame) : Token → Option Reader
  | .openBracket => some ⟨.valueOrEnd, .array [] :: stack⟩
  | .openBrace => some ⟨.nameOrEnd, .object [] false :: stack⟩
  | .atom v => some ⟨.follow v, stack⟩
  | _ => none

/-- Reads a field name. -/
def openName (stack : List Frame) : Token → Option Reader
  | .atom (.str s) => some ⟨.colon (some s), stack⟩
  | .atom .illFormed => some ⟨.colon none, stack⟩
  | _ => none

/-- Reads one lexeme. -/
def step (r : Reader) (t : Token) : Option Reader :=
  match r.expect, t, r.stack with
  | .value, t, stack => openValue stack t
  | .valueOrEnd, .closeBracket, .array items :: stack => some ⟨.follow (.arr items.reverse), stack⟩
  | .valueOrEnd, t, stack => openValue stack t
  | .name, t, stack => openName stack t
  | .nameOrEnd, .closeBrace, .object fields broken :: stack =>
    some ⟨.follow (closed fields broken), stack⟩
  | .nameOrEnd, t, stack => openName stack t
  | .colon (some name), .colon, .object fields broken :: stack =>
    some ⟨.value, .field fields broken name :: stack⟩
  | .colon none, .colon, .object fields _ :: stack => some ⟨.value, .field fields true "" :: stack⟩
  | .follow v, .comma, .array items :: stack => some ⟨.value, .array (v :: items) :: stack⟩
  | .follow v, .closeBracket, .array items :: stack =>
    some ⟨.follow (.arr (v :: items).reverse), stack⟩
  | .follow v, .comma, .field fields broken name :: stack =>
    some ⟨.name, .object ((name, v) :: fields) broken :: stack⟩
  | .follow v, .closeBrace, .field fields broken name :: stack =>
    some ⟨.follow (closed ((name, v) :: fields) broken), stack⟩
  | _, _, _ => none

/-- The value once the lexemes have ended. -/
def finish? (r : Reader) : Option Json :=
  match r.expect, r.stack with
  | .follow v, [] => some v
  | _, _ => none

end Reader

/-- The value of a list of lexemes. -/
def ofTokens? (ts : List Token) : Option Json := ts.foldlM Reader.step .start >>= Reader.finish?

/-- The value that a text denotes. Nothing but blanks may stand around it. -/
def parse? (s : String) : Option Json := Token.scan? s.toList >>= ofTokens?

end Signpost.Json
