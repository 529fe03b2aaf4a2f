/-
`Text/Decimal.lean` -- numbers as doubles see them.

A double-precision number has 53 binary digits. A natural number with more is rounded to the nearest
one that has no more, a half going to the even neighbour, and there is no finite double at or above
the midpoint between the largest, `(2 ^ 53 - 1) · 2 ^ 971`, and the next power of two.

A decimal literal is `digits · 10 ^ exponent`; it is too large exactly when it lies at or above that
midpoint. Exponents are compared by digit count first, so that no huge power is ever computed.
-/

set_option autoImplicit false

namespace Signpost.Text

/-! ## Rounding to double precision -/

/-- The least number that rounds to no finite double. -/
def doubleBound : Nat := Nat.pow 2 1024 - Nat.pow 2 970

/-- The multiple of the unit that is nearest to the number. A half goes to the even multiple. -/
def roundTo (unit n : Nat) : Nat :=
  let low := n / unit
  let rest := 2 * (n % unit)
  if rest < unit ∨ (rest = unit ∧ low % 2 = 0) then low * unit else (low + 1) * unit

/-- The number with 53 binary digits that is nearest to the given one. -/
def roundDouble (n : Nat) : Nat := roundTo (Nat.pow 2 (n.log2 - 52)) n

/-! ## Decimal literals -/

/-- The number that a run of decimal digits denotes. -/
def natOfDigits (cs : List Char) : Nat :=
  cs.foldl (fun n c => n * 10 + (c.toNat - 48)) 0

/-- A decimal number without its sign. -/
structure Decimal where
  digits : Nat
  exponent : Int

namespace Decimal

/-- The decimal with the given digits before and after the point and the given exponent. -/
def ofParts (whole fraction : List Char) (exponent : Int) : Decimal :=
  ⟨natOfDigits (whole ++ fraction), exponent - fraction.length⟩

/-- Whether the number rounds to no finite double. A bound of 309 digits decides all but the numbers
with exactly as many. -/
def exceedsDouble (d : Decimal) : Bool :=
  if d.digits = 0 then false
  else
    let size : Int := (Nat.toDigits 10 d.digits).length + d.exponent
    if size < 309 then false
    else if 309 < size then true
    else if 0 ≤ d.exponent then doubleBound ≤ d.digits * Nat.pow 10 d.exponent.toNat
    else doubleBound * Nat.pow 10 (-d.exponent).toNat ≤ d.digits

end Decimal

end Signpost.Text
