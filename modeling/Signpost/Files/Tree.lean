/-
`Files/Tree.lean` -- trees of files.

A system of files as a value: all that stands below the root, and the working directory, a place
told by names without separators and short enough to be looked up. A path is walked name by name,
and every name but the last has to lead to a directory; so does the last one when a separator
follows it. A name that is too long is refused when the walk comes to it.
-/
import Signpost.Files.Node

set_option autoImplicit false

namespace Signpost

namespace FileTree

/-- The greatest number of bytes in a name. -/
def maxName : Nat := 255

/-- The greatest number of bytes in a path. -/
def maxPath : Nat := 4095

/-- A name that something can have in a directory. -/
structure Proper (name : String) : Prop where
  ne_idle : Path.isIdle name = false
  ne_up : name ≠ ".."
  short : name.utf8ByteSize ≤ maxName
  noSeparator : '/' ∉ name.toList
  noZero : '\x00' ∉ name.toList

instance (name : String) : Decidable (Proper name) :=
  decidable_of_iff
    (Path.isIdle name = false ∧ name ≠ ".." ∧ name.utf8ByteSize ≤ maxName ∧ '/' ∉ name.toList
      ∧ '\x00' ∉ name.toList)
    ⟨fun ⟨hidle, hup, hshort, hseparator, hzero⟩ => ⟨hidle, hup, hshort, hseparator, hzero⟩,
      fun h => ⟨h.ne_idle, h.ne_up, h.short, h.noSeparator, h.noZero⟩⟩

end FileTree

/-- A tree of files. -/
structure FileTree where
  /-- The working directory. -/
  here : Place := []
  root : FileNode := .bare
  /-- The working directory is told by names that something can have. -/
  proper : ∀ name ∈ here, FileTree.Proper name := by decide

/-- Where a walk has come: the names from the root on, last first, with what stands at each. -/
abbrev Trail := List (String × Option FileNode)

/-- The place that a trail leads to. -/
def Trail.place (trail : Trail) : Place := (trail.map Prod.fst).reverse

namespace FileTree

/-- What stands at the end of a trail. -/
def standing (t : FileTree) : Trail → Option FileNode
  | [] => some t.root
  | (_, node) :: _ => node

/-- The names in the directory at the end of a trail, with what stands under them. -/
def enter (t : FileTree) (trail : Trail) : Except FileError (Table String FileNode) :=
  match t.standing trail with
  | none => .error .notFound
  | some (.file _) => .error .notDirectory
  | some (.directory entries) => .ok entries

/-- One name further. -/
def step (t : FileTree) (trail : Trail) (name : String) : Except FileError Trail := do
  let entries ← t.enter trail
  if Path.isIdle name then return trail
  else if name = ".." then return trail.tail
  else if maxName < name.utf8ByteSize then throw .nameTooLong
  else return (name, entries.find? name) :: trail

/-- The trail to a place. -/
def trailTo (t : FileTree) (place : Place) : Trail :=
  place.foldl (fun trail name => (name, (t.standing trail).bind (·.get? [name])) :: trail) []

/-- Where names lead that are walked from where the path starts. -/
def walk (t : FileTree) (p : Path) (names : List String) : Except FileError Trail :=
  match p.fault? with
  | some e => .error e
  | none =>
    if p.text.isEmpty then .error .notFound
    else if maxPath < p.text.utf8ByteSize then .error .nameTooLong
    else names.foldlM t.step (if p.isAbsolute then [] else t.trailTo t.here)

/-- Where a path leads. There may be nothing there. -/
def locate (t : FileTree) (p : Path) : Except FileError Trail := t.walk p p.parts

/-- What a path leads to. -/
def kind? (t : FileTree) (p : Path) : Option FileKind :=
  match t.locate p with
  | .ok trail => (t.standing trail).map FileNode.kind
  | .error _ => none

/-- The text of a file. -/
def readText (t : FileTree) (p : Path) : Except FileError String := do
  match t.standing (← t.locate p) with
  | none => .error .notFound
  | some (.file text) => .ok text
  | some (.directory _) => .error .isDirectory

/-- The texts between the separators without the empty ones at the end. -/
def closedParts (p : Path) : List String := (p.parts.reverse.dropWhile (· == "")).reverse

/-- Whether the path ends in a separator that follows a name. -/
def endsOpen (p : Path) : Bool :=
  p.text.toList.getLast? == some '/' &&
    match (closedParts p).getLast? with
    | some name => name != "." && name != ".."
    | none => false

/-- Puts something at the end of a trail. -/
def put (t : FileTree) (trail : Trail) (new : FileNode) : FileTree :=
  { t with root := FileNode.put new trail.place t.root }

/-- Makes the text the contents of a file. A path that ends in a separator can only be that of a
directory, whatever the name before it leads to. -/
def writeText (t : FileTree) (p : Path) (text : String) : Except FileError FileTree := do
  if endsOpen p then
    let _ ← t.enter (← t.walk p (closedParts p).dropLast)
    throw .isDirectory
  let trail ← t.locate p
  match t.standing trail with
  | some (.directory _) => throw .isDirectory
  | _ => return t.put trail (.file text)

/-- Makes one directory. -/
def makeDir (t : FileTree) (p : Path) : Except FileError FileTree := do
  let trail ← t.walk p (if endsOpen p then closedParts p else p.parts)
  match t.standing trail with
  | some _ => throw .alreadyThere
  | none => return t.put trail .bare

/-- The working directory as a path. -/
def cwd (t : FileTree) : Path := ⟨"/" ++ "/".intercalate t.here⟩

/-- Goes on with the tree that an action leaves, or with the old one if it failed. -/
def change (f : FileTree → Except FileError FileTree) : ExceptT FileError (StateM FileTree) Unit :=
  .mk do
    match f (← get) with
    | .ok t =>
      set t
      return .ok ()
    | .error e => return .error e

instance : MonadFiles (StateM FileTree) where
  cwd := return (← get).cwd
  kind? p := return (← get).kind? p
  readText p := .mk do return (← get).readText p
  writeText p text := change fun t => t.writeText p text
  makeDir p := change fun t => t.makeDir p

end FileTree

end Signpost
