/-
`Collection.lean` -- lists without repetitions, tables and chains.

The three shapes of data that the rest is built from, each a plain list underneath.

Specification: 3 (results are sets, de-duplicated by identity, in the order of the index).
-/

set_option autoImplicit false

namespace Signpost

/-! ## Lists without repetitions

Answers are lists in first-seen order without repetitions, where two elements count as the same when
a key of theirs agrees. Such a list grows by one step, `insertBy`, which appends an element unless
its key is there already; `distinctBy` is that step folded over a list. -/

section Distinct

variable {α κ : Type} [DecidableEq κ]

/-- Whether an element with this key is in the list. -/
def holdsKey (key : α → κ) (xs : List α) (k : κ) : Bool := xs.any fun x => key x = k

/-- Appends an element unless one with its key is there. -/
def insertBy (key : α → κ) (xs : List α) (a : α) : List α :=
  if holdsKey key xs (key a) then xs else xs ++ [a]

/-- The elements with the keys not seen before, in order. -/
def distinctBy (key : α → κ) (xs : List α) : List α := xs.foldl (insertBy key) []

@[simp] theorem distinctBy_nil (key : α → κ) : distinctBy key [] = [] := rfl

end Distinct

/-! ## Keyed tables

A finite table from keys to values, with its entries in the order in which the keys were first
written. Writing under a key that is there already replaces the value in place, so a table never
holds a key twice. One equation, `find?_update`, says all that a reader sees: a look-up after a write
gives the written value under the same key and the old one under any other. -/

/-- A table, its entries in the order of first writing. -/
structure Table (κ ν : Type) where
  entries : List (κ × ν)

namespace Table

variable {κ ν : Type} [DecidableEq κ]

/-- The table without entries. -/
def empty : Table κ ν := ⟨[]⟩

instance : EmptyCollection (Table κ ν) := ⟨empty⟩

/-- The value under a key. -/
def findIn (k : κ) : List (κ × ν) → Option ν
  | [] => none
  | (k', v) :: rest => if k' = k then some v else findIn k rest

/-- The value under a key. -/
def find? (t : Table κ ν) (k : κ) : Option ν := findIn k t.entries

/-- Replaces the value under a key by what `f` makes of it. -/
def updateIn (k : κ) (f : Option ν → ν) : List (κ × ν) → List (κ × ν)
  | [] => [(k, f none)]
  | (k', v) :: rest => if k' = k then (k, f (some v)) :: rest else (k', v) :: updateIn k f rest

/-- Replaces the value under a key by what `f` makes of it. -/
def update (t : Table κ ν) (k : κ) (f : Option ν → ν) : Table κ ν := ⟨updateIn k f t.entries⟩

/-- Writes a value under a key. -/
def insert (t : Table κ ν) (k : κ) (v : ν) : Table κ ν := t.update k fun _ => v

/-- The number of keys. -/
def size (t : Table κ ν) : Nat := t.entries.length

/-- The keys, in the order of first writing. -/
def keys (t : Table κ ν) : List κ := t.entries.map Prod.fst

/-- The values, in the order in which their keys were first written. -/
def values (t : Table κ ν) : List ν := t.entries.map Prod.snd

/-! ## Looking up after writing -/

@[simp] theorem find?_empty (k : κ) : (∅ : Table κ ν).find? k = none := rfl

theorem findIn_updateIn (k k' : κ) (f : Option ν → ν) (es : List (κ × ν)) :
    findIn k' (updateIn k f es) = if k = k' then some (f (findIn k es)) else findIn k' es := by
  induction es with
  | nil => simp [updateIn, findIn]
  | cons e es ih =>
    obtain ⟨j, v⟩ := e
    by_cases hj : j = k
    · subst hj
      by_cases hk : j = k' <;> simp [updateIn, findIn, hk]
    · by_cases hk : k = k'
      · subst hk
        simp [updateIn, findIn, hj, ih]
      · by_cases hjk : j = k'
        · subst hjk
          simp [updateIn, findIn, hj, hk]
        · simp [updateIn, findIn, hj, hk, hjk, ih]

/-- The value under a key after an update. -/
theorem find?_update (t : Table κ ν) (k k' : κ) (f : Option ν → ν) :
    (t.update k f).find? k' = if k = k' then some (f (t.find? k)) else t.find? k' :=
  findIn_updateIn k k' f t.entries

end Table

/-! ## Chains

The elements reached by taking one partial step after another. The length bound makes the chain
finite whatever the step does; a step that never returns to where it was ends before any bound that
counts all elements. -/

section Chain

variable {α : Type}

/-- The first `bound` elements after `a` along the step. -/
def chain (next : α → Option α) : Nat → α → List α
  | 0, _ => []
  | bound + 1, a =>
    match next a with
    | none => []
    | some b => b :: chain next bound b

/-- The first of the `bound` elements after `a` along the step that passes the test. The steps after
it are not taken. -/
def chainFind? (next : α → Option α) (test : α → Bool) : Nat → α → Option α
  | 0, _ => none
  | bound + 1, a =>
    match next a with
    | none => none
    | some b => if test b then some b else chainFind? next test bound b

@[simp] theorem chain_zero (next : α → Option α) (a : α) : chain next 0 a = [] := rfl

theorem chain_succ (next : α → Option α) (n : Nat) (a : α) :
    chain next (n + 1) a = ((next a).map fun b => b :: chain next n b).getD [] := by
  rw [chain]
  cases next a <;> rfl

/-- Searching along the step is searching the chain. -/
theorem chainFind?_eq (next : α → Option α) (test : α → Bool) (n : Nat) (a : α) :
    chainFind? next test n a = (chain next n a).find? test := by
  induction n generalizing a with
  | zero => rfl
  | succ n ih =>
    rw [chainFind?, chain]
    cases next a with
    | none => rfl
    | some b => cases hb : test b <;> simp [hb, ih]

end Chain

end Signpost
