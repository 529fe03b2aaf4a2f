/-
`Toml/Value.lean` -- TOML values.

The values that a settings file can hold. Laying one value over another replaces it, except that
tables are merged entry by entry, at every depth. Numbers with a fraction and dates are kept as they
were written, since no setting has such a value; a date counts as a table in which nothing is set.
-/
import Signpost.Collection
import Signpost.Json.Value

set_option autoImplicit false

namespace Signpost

/-- A TOML value. -/
inductive Toml where
  | bool (b : Bool)
  | int (n : Int)
  /-- A number with a fraction or an exponent, or one that is not finite. -/
  | float (literal : String)
  | text (s : String)
  /-- A date, a time, or both. -/
  | date (literal : String)
  | array (items : List Toml)
  | table (entries : List (String × Toml))
  deriving Inhabited

namespace Toml

/-! ## Layers -/

mutual

/-- The value laid over an older one. -/
def laidOver : Toml → Option Toml → Toml
  | .table entries, some (.table older) => .table (entriesOver entries older)
  | .date _, some (.table older) => .table older
  | v, _ => v

/-- Entries laid over older ones. -/
def entriesOver : List (String × Toml) → List (String × Toml) → List (String × Toml)
  | [], older => older
  | (key, v) :: rest, older =>
    entriesOver rest (Table.updateIn key (fun old => laidOver v old) older)

end

/-- The values from the first to the last, each laid over those before it. -/
def layered (base : Toml) (layers : List Toml) : Toml :=
  layers.foldl (fun below v => v.laidOver (some below)) base

/-! ## As JSON -/

mutual

/-- The value as JSON. -/
def toJson : Toml → Json
  | .bool b => .bool b
  | .int n => if 0 ≤ n then .nat n.toNat else .num ("-" ++ (-n).toNat.repr)
  | .float literal => .num literal
  | .text s => .str s
  | .date _ => .obj []
  | .array items => .arr (itemsToJson items)
  | .table entries => .obj (entriesToJson entries)

/-- The items as JSON. -/
def itemsToJson : List Toml → List Json
  | [] => []
  | v :: rest => toJson v :: itemsToJson rest

/-- The entries as JSON. -/
def entriesToJson : List (String × Toml) → List (String × Json)
  | [] => []
  | (key, v) :: rest => (key, toJson v) :: entriesToJson rest

end

end Toml

end Signpost
