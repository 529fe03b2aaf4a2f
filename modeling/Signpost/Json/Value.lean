/-
`Json/Value.lean` -- JSON values.

A JSON value as a text denotes it: objects keep the order of their fields and repeated names, and a
number keeps its kind, since a plain run of digits is the only literal that counts as an integer.

A text can be grammatical and still denote nothing: a string whose escapes name half of a surrogate
pair. Such a string, and an object with such a field name, is `illFormed`. It is harmless where no
one looks, in a field that the reader does not know, and fits no type anywhere else.
-/
import Signpost.Json.Number

set_option autoImplicit false

namespace Signpost

/-- A JSON value. -/
inductive Json where
  | null
  | bool (b : Bool)
  /-- A number written with digits only. -/
  | nat (n : Nat)
  /-- Any other number: negative, with a fraction or with an exponent. -/
  | num (literal : String)
  | str (s : String)
  | illFormed
  | arr (items : List Json)
  | obj (fields : List (String × Json))
  deriving Inhabited

namespace Json

/-- The value of a number literal. -/
def ofNumber? (cs : List Char) : Option Json :=
  (NumberLiteral.read? cs).map fun n =>
    if n.negative || n.fraction.isSome || n.exponent.isSome then .num (.ofList cs)
    else .nat (Text.natOfDigits n.whole)

/-! ## Values that are held before they are understood

A tagged record is told by one of its fields, which may come last, so the whole value is taken in
before its kind is known. Then every part has to be a value in earnest: texts denote characters,
numbers fit a double, and nesting stays below a fixed level. -/

/-- The level of nesting that a held value must stay below. -/
def heldLevels : Nat := 128

mutual

/-- Whether a value below `level` enclosing arrays and objects can be held. -/
def holdable (level : Nat) : Json → Bool
  | .null | .bool _ | .str _ => true
  | .nat n => !(NumberLiteral.mk false (Nat.toDigits 10 n) none none).isTooLarge
  | .num literal =>
    match NumberLiteral.read? literal.toList with
    | some n => !n.isTooLarge
    | none => false
  | .illFormed => false
  | .arr items => level + 1 < heldLevels && holdableItems (level + 1) items
  | .obj fields => level + 1 < heldLevels && holdableFields (level + 1) fields

/-- Whether all items can be held. -/
def holdableItems (level : Nat) : List Json → Bool
  | [] => true
  | v :: rest => holdable level v && holdableItems level rest

/-- Whether the values of all fields can be held. -/
def holdableFields (level : Nat) : List (String × Json) → Bool
  | [] => true
  | (_, v) :: rest => holdable level v && holdableFields level rest

end

end Json

end Signpost
