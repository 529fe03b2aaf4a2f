/-
`Location.lean` -- places in files.

A span counts bytes of a document and includes its start and not its end. A range counts lines and
columns of a file. A location is a file with or without a range; two locations are the same place
when their ranges agree and their paths have the same components.
-/
import Signpost.Path

set_option autoImplicit false

namespace Signpost

/-- Byte offsets of a piece of a document. -/
structure Span where
  start : UInt32
  stop : UInt32
  deriving DecidableEq, Inhabited, Repr

/-- Whether an offset lies in the span; the end belongs to what follows. -/
def Span.contains (s : Span) (offset : UInt32) : Bool := s.start ≤ offset && offset < s.stop

/-- Lines and columns of a piece of a file. -/
structure Range where
  startLine : UInt32
  startColumn : UInt16
  endLine : UInt32
  endColumn : UInt16
  deriving DecidableEq, Inhabited, Repr

/-- Where a declaration stands. A whole file has no range. -/
structure Location where
  path : Path
  range : Option Range
  deriving DecidableEq, Inhabited, Repr

namespace Location

/-- The path, with the line and column of the start if there is a range. -/
def display (l : Location) : String :=
  match l.range with
  | none => l.path.text
  | some r => l.path.text ++ ":" ++ r.startLine.toNat.repr ++ ":" ++ r.startColumn.toNat.repr

/-- What tells a place from any other. -/
structure Identity where
  path : List Path.Component
  range : Option Range
  deriving DecidableEq

/-- What tells this place from any other. -/
def identity (l : Location) : Identity := ⟨l.path.components, l.range⟩

end Location

end Signpost
