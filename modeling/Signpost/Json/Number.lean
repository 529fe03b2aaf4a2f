/-
`Json/Number.lean` -- numbers of JSON.

The grammar of number literals, and their size as far as it is needed to tell whether a
double-precision number can hold them. The size is taken in two steps, digits first and exponent
second, each rounded, so the test is not exact near the largest double.
-/
import Signpost.Text.Decimal

set_option autoImplicit false

namespace Signpost

namespace Json

/-- The grammar of numbers: a sign, a whole part without leading zeros, a fraction, an exponent. -/
structure NumberLiteral where
  negative : Bool
  whole : List Char
  fraction : Option (List Char)
  exponent : Option (Bool × List Char)

namespace NumberLiteral

/-- Splits off the exponent part, if the characters are one. -/
def exponentPart? : List Char → Option (Option (Bool × List Char))
  | [] => some none
  | e :: rest =>
    if e = 'e' ∨ e = 'E' then
      let (negative, digits) := match rest with
        | '-' :: digits => (true, digits)
        | '+' :: digits => (false, digits)
        | digits => (false, digits)
      if digits.isEmpty || !digits.all Char.isDigit then none else some (some (negative, digits))
    else none

/-- Splits off fraction and exponent, if the characters are that. -/
def tail? (cs : List Char) : Option (Option (List Char) × Option (Bool × List Char)) :=
  match cs with
  | '.' :: rest =>
    let digits := rest.takeWhile Char.isDigit
    if digits.isEmpty then none
    else (exponentPart? (rest.dropWhile Char.isDigit)).map fun e => (some digits, e)
  | cs => (exponentPart? cs).map fun e => (none, e)

/-- Reads a number literal. -/
def read? (cs : List Char) : Option NumberLiteral :=
  let (negative, cs) := match cs with
    | '-' :: rest => (true, rest)
    | cs => (false, cs)
  let whole := cs.takeWhile Char.isDigit
  if whole.isEmpty || (whole.head? == some '0' && whole.length != 1) then none
  else (tail? (cs.dropWhile Char.isDigit)).map fun (fraction, exponent) =>
    ⟨negative, whole, fraction, exponent⟩

/-- The exponent, with its sign. -/
def scale (n : NumberLiteral) : Int :=
  match n.exponent with
  | none => 0
  | some (true, digits) => -(Text.natOfDigits digits : Int)
  | some (false, digits) => Text.natOfDigits digits

/-- Appends digits to a number as long as it stays below `2 ^ 64`, and gives those left over. -/
def append (n : Nat) : List Char → Nat × List Char
  | [] => (n, [])
  | c :: rest =>
    let more := Text.natOfDigits [c] + n * 10
    if more < UInt64.size then append more rest else (n, c :: rest)

/-- The literal with as many digits as 64 bits hold. What is left over of the whole part counts as
zeros, and what is left over of the fraction is dropped. -/
def toDecimal (n : NumberLiteral) : Text.Decimal :=
  let (digits, zeros) := append 0 n.whole
  let fraction := n.fraction.getD []
  let (digits, dropped) := append digits fraction
  ⟨digits, n.scale + zeros.length - (fraction.length - dropped.length : Nat)⟩

/-- Whether the literal is too large for a double. The digits and the power of ten are each rounded
before they are multiplied, and the power has to be a finite double itself. -/
def isTooLarge (n : NumberLiteral) : Bool :=
  let d := n.toDecimal
  d.digits ≠ 0 && 0 ≤ d.exponent &&
    (308 < d.exponent ||
      Text.doubleBound ≤
        Text.roundDouble d.digits * Text.roundDouble (Nat.pow 10 d.exponent.toNat))

end NumberLiteral

end Json

end Signpost
