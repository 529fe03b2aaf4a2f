/-
`Signature.lean` -- encoded signatures.

The signature of a call is the signature of the called method, a delimiter, and what stands for the
argument. Alternatives are joined by `|`. Splitting goes to the first delimiter, with one exception
that keeps `.` usable: the signature of a class member ends in `.name` itself, so there the first
`.` belongs to the base.

A look-up that finds nothing is no failure; the reason is kept for those who ask.

Specification: 4.1, the grammar in 6, and B.6, item 4.
-/
import Signpost.Text.Basic
import Signpost.Text.Alphanumeric

set_option autoImplicit false

namespace Signpost.Signature

/-- Joins the alternatives of a union. -/
def unionMark : Char := '|'

/-- Starts every text that has to be looked up. -/
def deferredMark : Char := '#'

/-- Whether a text has to be looked up. -/
def isDeferred (s : String) : Bool := Text.startsWith deferredMark s

/-- The alternatives of a union, empty ones included. -/
def branches (s : String) : List String := Text.split unionMark s

/-- The starts of signatures that end in `.name`. -/
def memberStarts : List String := ["#M#C", "#P#C", "#K#C"]

/-- Whether a text starts like the signature of a class member. -/
def isMember (s : String) : Bool := memberStarts.any fun start => (Text.after? start s).isSome

/-- The characters before and after the delimiter of an encoded signature; `member` tells whether
the base holds the first `.` itself. -/
def splitChars? (delimiter : Char) (member : Bool) (cs : List Char) :
    Option (List Char × List Char) :=
  if member && delimiter == '.' then do
    let (owner, rest) ← Text.cutChars? '.' cs
    let (name, argument) ← Text.cutChars? '.' rest
    return (owner ++ '.' :: name, argument)
  else Text.cutChars? delimiter cs

/-- The base and the argument of an encoded signature. -/
def split? (delimiter : Char) (s : String) : Option (String × String) :=
  (splitChars? delimiter (isMember s) s.toList).map fun (base, argument) =>
    (.ofList base, .ofList argument)

/-- Whether a character can separate a base from its argument: it occurs in no base, neither as a
mark nor inside an identifier. -/
def isDelimiter (c : Char) : Bool :=
  !(c == '\\' || c == deferredMark || c == unionMark || c == '_' || Text.isAlphanumeric c
    || Text.isBlank c)

/-- The delimiter used unless the settings name another. -/
def defaultDelimiter : Char := '?'

end Signpost.Signature

namespace Signpost

/-! ## Why nothing was found -/

/-- Why a step of resolution has no answer. -/
inductive Miss where
  /-- The call has no shape that a signature can carry. -/
  | unencodable
  /-- The index holds nothing under the signature. -/
  | notFound (signature : String)
  /-- The declaration is there and has no literal value. -/
  | nonLiteral (signature : String)
  deriving DecidableEq, Repr

/-- The wording of a miss. -/
def Miss.message : Miss → String
  | .unencodable => "call site cannot be encoded as a signature"
  | .notFound s => "no index entry for '" ++ s ++ "'"
  | .nonLiteral s => "'" ++ s ++ "' does not resolve to a literal value"

end Signpost
