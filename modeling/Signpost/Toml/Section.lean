/-
`Toml/Section.lean` -- tables in the making.

A TOML document writes tables piece by piece: under headers, under dotted keys, and as elements of
arrays of tables. What may be extended later depends on how a table came about, so each table
remembers whether it was only passed through on the way to another (`implicit`) and whether it was
passed through by a dotted key (`dotted`). A table with a header of its own is never extended by
dotted keys, a table made by dotted keys never gets a header, and a value is never extended.
-/
import Signpost.Toml.Value

set_option autoImplicit false

namespace Signpost.Toml

/-- An entry of a table in the making. -/
inductive Item where
  | value (v : Toml)
  | table (implicit dotted : Bool) (entries : List (String × Item))
  /-- An array of tables, the last one first. -/
  | tables (elements : List Item)

namespace Item

/-- The entries of a table in the making. -/
abbrev Entries := List (String × Item)

/-- Replaces the item under a key by what `f` makes of it. -/
def updateKey (key : String) (f : Option Item → Option Item) : Entries → Option Entries
  | [] => (f none).map fun item => [(key, item)]
  | (k, item) :: rest =>
    if k = key then (f (some item)).map fun item => (key, item) :: rest
    else (updateKey key f rest).map ((k, item) :: ·)

/-- Goes along a path, making the tables that are missing, and applies `f` to the last table and to
whether it is dotted. With `dotted`, only tables without a header are passed. -/
def within (dotted : Bool) (f : Bool → Entries → Option Entries) :
    List String → Bool → Entries → Option Entries
  | [], self, entries => f self entries
  | key :: path, _, entries =>
    updateKey key (fun
      | none => (within dotted f path dotted []).map (.table true dotted)
      | some (.value _) => none
      | some (.table implicit isDotted inner) =>
        if dotted && !implicit then none
        else (within dotted f path isDotted inner).map (.table implicit isDotted)
      | some (.tables (.table implicit isDotted inner :: older)) =>
        (within dotted f path isDotted inner).map fun inner =>
          .tables (.table implicit isDotted inner :: older)
      | some (.tables _) => none) entries

/-- Goes along the path of a header that stands already and applies `f` to its table. -/
def inside (f : Entries → Option Entries) : List String → Entries → Option Entries
  | [], entries => f entries
  | key :: path, entries =>
    updateKey key (fun
      | some (.table implicit dotted inner) => (inside f path inner).map (.table implicit dotted)
      | some (.tables (.table implicit dotted inner :: older)) =>
        (inside f path inner).map fun inner => .tables (.table implicit dotted inner :: older)
      | _ => none) entries

/-- Enters a value under a dotted key, given as the path before its last part and that part. -/
def assign (path : List String) (key : String) (v : Toml) (entries : Entries) : Option Entries :=
  within true (fun dotted entries =>
    if dotted = path.isEmpty then none
    else updateKey key (fun
      | none => some (.value v)
      | some _ => none) entries) path false entries

/-- Opens the table of a header. -/
def openTable (path : List String) (key : String) (entries : Entries) : Option Entries :=
  within false (fun _ entries =>
    updateKey key (fun
      | none => some (.table false false [])
      | some (.table true false inner) => some (.table false false inner)
      | some _ => none) entries) path false entries

/-- Opens a new element of an array of tables. -/
def openElement (path : List String) (key : String) (entries : Entries) : Option Entries :=
  within false (fun _ entries =>
    updateKey key (fun
      | none => some (.tables [.table false false []])
      | some (.tables elements) => some (.tables (.table false false [] :: elements))
      | some _ => none) entries) path false entries

mutual

/-- The finished value of an item. -/
def toToml : Item → Toml
  | .value v => v
  | .table _ _ entries => .table (entriesToToml entries)
  | .tables elements => .array (elementsToToml elements).reverse

/-- The finished entries of a table. -/
def entriesToToml : List (String × Item) → List (String × Toml)
  | [] => []
  | (key, item) :: rest => (key, toToml item) :: entriesToToml rest

/-- The finished elements of an array of tables. -/
def elementsToToml : List Item → List Toml
  | [] => []
  | item :: rest => toToml item :: elementsToToml rest

end

end Item

end Signpost.Toml
