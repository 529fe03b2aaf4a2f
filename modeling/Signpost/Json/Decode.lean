/-
`Json/Decode.lean` -- fitting JSON values to types.

The rules by which a value is read as a record. A record is an object, or the array of its fields in
order, where fields may be missing at the end. Unknown fields of an object are passed over, a known
field that is repeated makes the object fit nothing, and a missing field is left to the field's own
rule. A tagged record names its kind in the field `kind`, or in the first place of the array.
-/
import Signpost.Json.Value

set_option autoImplicit false

namespace Signpost.Json

/-! ## Plain values -/

/-- A string. -/
def text? : Json → Option String
  | .str s => some s
  | _ => none

/-- A truth value. -/
def bool? : Json → Option Bool
  | .bool b => some b
  | _ => none

/-- A whole number below the bound. -/
def natBelow? (bound : Nat) : Json → Option Nat
  | .nat n => if n < bound then some n else none
  | _ => none

/-- A whole number of 16 bits. -/
def uint16? (v : Json) : Option UInt16 := (v.natBelow? UInt16.size).map .ofNat

/-- A whole number of 32 bits. -/
def uint32? (v : Json) : Option UInt32 := (v.natBelow? UInt32.size).map .ofNat

/-- A whole number of 64 bits. -/
def uint64? (v : Json) : Option UInt64 := (v.natBelow? UInt64.size).map .ofNat

/-- A string of one character. -/
def char? : Json → Option Char
  | .str s => match s.toList with
    | [c] => some c
    | _ => none
  | _ => none

/-- An array whose items all fit. -/
def list? {α : Type} (item? : Json → Option α) : Json → Option (List α)
  | .arr items => items.mapM item?
  | _ => none

/-! ## Fields -/

/-- A field that may be missing or null. -/
def optional {α : Type} (fit? : Json → Option α) : Option Json → Option (Option α)
  | none => some none
  | some .null => some none
  | some v => (fit? v).map some

/-- A field that must be there. -/
def required {α : Type} (fit? : Json → Option α) : Option Json → Option α
  | none => none
  | some v => fit? v

/-- A field with a value of its own when it is missing. -/
def orElse {α : Type} (default : α) (fit? : Json → Option α) : Option Json → Option α
  | none => some default
  | some v => fit? v

/-- The value of a known field of an object: none inside if it is missing, none at all if it is
repeated. -/
def field? (fields : List (String × Json)) (name : String) : Option (Option Json) :=
  match fields.filter (·.1 == name) with
  | [] => some none
  | [(_, v)] => some (some v)
  | _ => none

/-- The items of an array in the places of the known fields; none if there are too many. -/
def places? : List String → List Json → Option (List (Option Json))
  | [], [] => some []
  | [], _ :: _ => none
  | _ :: names, [] => (places? names []).map (none :: ·)
  | _ :: names, v :: rest => (places? names rest).map (some v :: ·)

/-- The values of the known fields of a record, in the order of the names. -/
def record? (names : List String) : Json → Option (List (Option Json))
  | .obj fields => names.mapM (field? fields)
  | .arr items => places? names items
  | _ => none

/-- The values of the known fields of a record, where an array may go on after the last of them. -/
def openRecord? (names : List String) : Json → Option (List (Option Json))
  | .arr items => places? names (items.take names.length)
  | v => record? names v

/-- The kind of a tagged record and the record without it. -/
def tagged? : Json → Option (String × Json)
  | .obj fields =>
    match field? fields "kind" with
    | some (some (.str kind)) => some (kind, .obj (fields.filter (·.1 != "kind")))
    | _ => none
  | .arr (.str kind :: rest) => some (kind, .arr rest)
  | _ => none

/-- The name of a constant: a string, or an object whose only field has it and is null. -/
def constant? : Json → Option String
  | .str s => some s
  | .obj [(name, .null)] => some name
  | _ => none

/-! ## Writing -/

/-- A text or null. -/
def ofOption {α : Type} (write : α → Json) : Option α → Json
  | none => .null
  | some a => write a

/-- A field that is left out when there is nothing to say. -/
def optionalField {α : Type} (name : String) (write : α → Json) : Option α → List (String × Json)
  | none => []
  | some a => [(name, write a)]

end Signpost.Json
