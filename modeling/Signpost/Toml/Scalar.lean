/-
`Toml/Scalar.lean` -- words of TOML.

A value that is neither a string nor an array nor a table is a word: a truth value, an integer in
base 10, 16, 8 or 2, a number with a fraction or an exponent, or a date. Digits may be grouped by
single underscores between them, integers are those of 64 bits, and dates have to exist.
-/
import Signpost.Toml.Value
import Signpost.Text.Decimal
import Signpost.Json.Token

set_option autoImplicit false

namespace Signpost.Toml

/-! ## Numbers -/

/-- The digits of a run in which single underscores may stand between digits. -/
def digitRun? (isDigit : Char → Bool) : List Char → Option (List Char)
  | [] => none
  | [c] => if isDigit c then some [c] else none
  | c :: '_' :: rest => if isDigit c then (digitRun? isDigit rest).map (c :: ·) else none
  | c :: rest => if isDigit c then (digitRun? isDigit rest).map (c :: ·) else none

/-- The number that digits denote in a base. -/
def ofDigits (base : Nat) (digits : List Char) : Nat :=
  digits.foldl (fun n c => n * base + (Json.Token.hexDigit? c).getD 0) 0

/-- Whether a character is a digit of the base. -/
def isDigitOf (base : Nat) (c : Char) : Bool := (Json.Token.hexDigit? c).any (· < base)

/-- The digits of a whole part in base 10, which has no leading zero. -/
def wholePart? (cs : List Char) : Option (List Char) :=
  if cs.head? = some '0' ∧ cs ≠ ['0'] then none else digitRun? Char.isDigit cs

/-- A sign and what follows it. -/
def signed (cs : List Char) : Bool × List Char :=
  match cs with
  | '-' :: rest => (true, rest)
  | '+' :: rest => (false, rest)
  | rest => (false, rest)

/-- An integer of 64 bits. -/
def int64? (n : Int) : Option Toml :=
  if -0x8000000000000000 ≤ n ∧ n < 0x8000000000000000 then some (.int n) else none

/-- An integer. -/
def integer? (cs : List Char) : Option Toml :=
  match cs with
  | '0' :: 'x' :: rest => (digitRun? (isDigitOf 16) rest).bind fun ds => int64? (ofDigits 16 ds)
  | '0' :: 'o' :: rest => (digitRun? (isDigitOf 8) rest).bind fun ds => int64? (ofDigits 8 ds)
  | '0' :: 'b' :: rest => (digitRun? (isDigitOf 2) rest).bind fun ds => int64? (ofDigits 2 ds)
  | cs =>
    let (negative, digits) := signed cs
    (wholePart? digits).bind fun ds =>
      let n : Int := ofDigits 10 ds
      int64? (if negative then -n else n)

/-- The exponent part of a number, if the characters are one. -/
def exponent? : List Char → Option Int
  | e :: rest =>
    if e = 'e' ∨ e = 'E' then
      let (negative, digits) := signed rest
      (digitRun? Char.isDigit digits).map fun ds =>
        let n : Int := ofDigits 10 ds
        if negative then -n else n
    else none
  | [] => none

/-- Whether a character belongs to a run of digits. -/
def isDigitOrGroup (c : Char) : Bool := c.isDigit || c = '_'

/-- A number with a fraction or an exponent, without its sign. -/
def decimal? (cs : List Char) : Option Text.Decimal := do
  let whole ← wholePart? (cs.takeWhile isDigitOrGroup)
  match cs.dropWhile isDigitOrGroup with
  | '.' :: rest =>
    let fraction ← digitRun? Char.isDigit (rest.takeWhile isDigitOrGroup)
    let tail := rest.dropWhile isDigitOrGroup
    let exponent ← if tail.isEmpty then some 0 else exponent? tail
    return .ofParts whole fraction exponent
  | tail => (exponent? tail).map (.ofParts whole [])

/-- A number that is no integer. One too large for a double is refused. -/
def float? (cs : List Char) : Option Toml :=
  let (negative, rest) := signed cs
  if rest = "inf".toList ∨ rest = "nan".toList then some (.float (.ofList cs))
  else (decimal? rest).bind fun d =>
    if d.exceedsDouble && !negative then none else some (.float (.ofList cs))

/-! ## Dates -/

/-- Two digits whose number lies between the bounds, and what follows them. -/
def twoDigits? (low high : Nat) : List Char → Option (Nat × List Char)
  | a :: b :: rest =>
    let n := Text.natOfDigits [a, b]
    if a.isDigit && b.isDigit && low ≤ n && n ≤ high then some (n, rest) else none
  | _ => none

/-- What follows the given character. -/
def afterChar? (c : Char) : List Char → Option (List Char)
  | d :: rest => if d = c then some rest else none
  | [] => none

/-- The number of days of a month. -/
def daysIn (year month : Nat) : Nat :=
  if month = 2 then
    if year % 4 = 0 ∧ (year % 100 ≠ 0 ∨ year % 400 = 0) then 29 else 28
  else if month = 4 ∨ month = 6 ∨ month = 9 ∨ month = 11 then 30
  else 31

/-- What follows a calendar date. -/
def afterDate? (cs : List Char) : Option (List Char) := do
  let (century, cs) ← twoDigits? 0 99 cs
  let (year, cs) ← twoDigits? 0 99 cs
  let cs ← afterChar? '-' cs
  let (month, cs) ← twoDigits? 1 12 cs
  let cs ← afterChar? '-' cs
  let (_, cs) ← twoDigits? 1 (daysIn (century * 100 + year) month) cs
  return cs

/-- What follows a time of day, with its fraction of a second. -/
def afterTime? (cs : List Char) : Option (List Char) := do
  let (_, cs) ← twoDigits? 0 23 cs
  let cs ← afterChar? ':' cs
  let (_, cs) ← twoDigits? 0 59 cs
  let cs ← afterChar? ':' cs
  let (_, cs) ← twoDigits? 0 60 cs
  match cs with
  | '.' :: rest =>
    if (rest.takeWhile Char.isDigit).isEmpty then none else some (rest.dropWhile Char.isDigit)
  | cs => some cs

/-- Whether the characters are an offset from universal time, or nothing. -/
def isOffset : List Char → Bool
  | [] => true
  | ['Z'] | ['z'] => true
  | sign :: rest =>
    (sign == '+' || sign == '-') &&
      ((do
        let (_, rest) ← twoDigits? 0 23 rest
        let rest ← afterChar? ':' rest
        let (_, rest) ← twoDigits? 0 59 rest
        return rest.isEmpty : Option Bool).getD false)

/-- Whether the characters are a calendar date. -/
def isDate (cs : List Char) : Bool := afterDate? cs == some []

/-- Whether the characters are a date, a time, or a date with a time. -/
def isDateTime (cs : List Char) : Bool :=
  match afterDate? cs with
  | some [] => true
  | some (mark :: rest) =>
    (mark == 'T' || mark == 't' || mark == ' ') && ((afterTime? rest).map isOffset).getD false
  | none => afterTime? cs == some []

/-! ## Words -/

/-- The value of a word. -/
def ofWord? (cs : List Char) : Option Toml :=
  if cs = "true".toList then some (.bool true)
  else if cs = "false".toList then some (.bool false)
  else if isDateTime cs then some (.date (.ofList cs))
  else integer? cs <|> float? cs

end Signpost.Toml
