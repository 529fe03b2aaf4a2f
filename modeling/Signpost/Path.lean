/-
`Path.lean` -- paths.

A path is a text in which `/` separates names. Two texts denote the same path when their components
agree: repeated and trailing separators do not count, nor does a `.` anywhere but at the start of a
relative path. Joining, parents and ancestors work on the text, so that what is printed is what was
written.
-/
import Signpost.Collection

set_option autoImplicit false

namespace Signpost

/-- A path as it is written. -/
structure Path where
  text : String
  deriving DecidableEq, Inhabited, Repr

namespace Path

/-- A component of a path. -/
inductive Component where
  /-- The start of an absolute path. -/
  | root
  /-- The `.` at the start of a relative path. -/
  | here
  | name (s : String)
  deriving DecidableEq, Repr

/-- The texts between the separators. -/
def parts (p : Path) : List String := (p.text.toList.splitOn '/').map .ofList

/-- Whether a text between separators counts for nothing. -/
def isIdle (part : String) : Bool := part == "" || part == "."

/-- Whether the path starts at the root. -/
def isAbsolute (p : Path) : Bool := p.text.toList.head? == some '/'

/-- Whether the path starts with a `.` of its own. -/
def startsHere (p : Path) : Bool := p.parts.head? == some "."

/-- The components of a path. -/
def components (p : Path) : List Component :=
  let names := (p.parts.filter (!isIdle ·)).map Component.name
  if p.isAbsolute then .root :: names
  else if p.startsHere then .here :: names
  else names

/-- Whether two texts denote the same path. -/
def same (p q : Path) : Bool := p.components = q.components

/-- The path `q` seen from `p`: `q` itself if it is absolute, else below `p`. -/
def join (p q : Path) : Path :=
  if q.isAbsolute then q
  else if p.text.isEmpty || p.text.toList.getLast? == some '/' then ⟨p.text ++ q.text⟩
  else ⟨p.text ++ "/" ++ q.text⟩

/-- Texts without the idle ones at the end. -/
def dropIdle (parts : List String) : List String := (parts.reverse.dropWhile isIdle).reverse

/-- The path without its last component. The root and the empty path have no parent. -/
def parent? (p : Path) : Option Path :=
  let anchored := p.isAbsolute || p.startsHere
  let anchor := if anchored then p.parts.take 1 else []
  let body := dropIdle (if anchored then p.parts.drop 1 else p.parts)
  if body.isEmpty then
    if p.startsHere && !p.isAbsolute then some ⟨""⟩ else none
  else
    let rest := dropIdle body.dropLast
    if rest.isEmpty && p.isAbsolute then some ⟨"/"⟩
    else some ⟨"/".intercalate (anchor ++ rest)⟩

/-- The path and its parents, innermost first. -/
def ancestors (p : Path) : List Path := p :: chain parent? (p.parts.length + 1) p

end Path

end Signpost
