/-
`Files/Node.lean` -- files and directories as values.

What stands somewhere in a system of files: a file with its text, or a directory with what stands
under each of its names. A place is told by the names that lead to it. The main statement says that
what is put at a place is found there.
-/
import Signpost.Files
import Signpost.Collection

set_option autoImplicit false

namespace Signpost

/-- The names from a directory down to something in it. -/
abbrev Place := List String

/-- A file, or a directory with all that it holds. -/
inductive FileNode where
  | file (text : String)
  | directory (entries : Table String FileNode)

namespace FileNode

/-- A directory that holds nothing. -/
def bare : FileNode := .directory ∅

/-- Whether this is a file or a directory. -/
def kind : FileNode → FileKind
  | .file _ => .file
  | .directory _ => .directory

/-- What stands under each name. Nothing does in a file. -/
def entries : FileNode → Table String FileNode
  | .file _ => ∅
  | .directory entries => entries

/-- What stands at a place below. -/
def get? : Place → FileNode → Option FileNode
  | [], n => some n
  | name :: rest, n => (n.entries.find? name).bind (get? rest)

/-- Puts something at a place below. All that leads to it becomes a directory. -/
def put (new : FileNode) : Place → FileNode → FileNode
  | [], _ => new
  | name :: rest, n =>
    .directory (n.entries.update name fun below => put new rest (below.getD bare))

/-- What was put at a place stands there. -/
theorem get?_put (new : FileNode) (place : Place) (n : FileNode) :
    (put new place n).get? place = some new := by
  induction place generalizing n with
  | nil => rfl
  | cons name rest ih => simp [put, get?, entries, Table.find?_update, ih]

end FileNode

end Signpost
