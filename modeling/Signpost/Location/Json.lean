/-
`Location/Json.lean` -- the written form of places.

Spans, ranges and locations as JSON records. Reading what was written gives the value back.
-/
import Signpost.Location
import Signpost.Json.Decode

set_option autoImplicit false

namespace Signpost

namespace Path

/-- A path is written as its text. -/
def toJson (p : Path) : Json := .str p.text

/-- Reads a path. -/
def ofJson? (v : Json) : Option Path := v.text?.map Path.mk

end Path

namespace Span

/-- Writes a span. -/
def toJson (s : Span) : Json := .obj [("start", .nat s.start.toNat), ("end", .nat s.stop.toNat)]

/-- Reads a span. -/
def ofJson? (v : Json) : Option Span :=
  match v.record? ["start", "end"] with
  | some [start, stop] => do
    return ⟨← Json.required Json.uint32? start, ← Json.required Json.uint32? stop⟩
  | _ => none

end Span

namespace Range

/-- Writes a range. -/
def toJson (r : Range) : Json :=
  .obj [("start_line", .nat r.startLine.toNat), ("start_column", .nat r.startColumn.toNat),
    ("end_line", .nat r.endLine.toNat), ("end_column", .nat r.endColumn.toNat)]

/-- Reads a range. -/
def ofJson? (v : Json) : Option Range :=
  match v.record? ["start_line", "start_column", "end_line", "end_column"] with
  | some [startLine, startColumn, endLine, endColumn] => do
    return ⟨← Json.required Json.uint32? startLine, ← Json.required Json.uint16? startColumn,
      ← Json.required Json.uint32? endLine, ← Json.required Json.uint16? endColumn⟩
  | _ => none

end Range

namespace Location

/-- Writes a location. -/
def toJson (l : Location) : Json :=
  .obj (("path", l.path.toJson) :: Json.optionalField "range" Range.toJson l.range)

/-- Reads a location. -/
def ofJson? (v : Json) : Option Location :=
  match v.record? ["path", "range"] with
  | some [path, range] => do
    return ⟨← Json.required Path.ofJson? path, ← Json.optional Range.ofJson? range⟩
  | _ => none

end Location

end Signpost
