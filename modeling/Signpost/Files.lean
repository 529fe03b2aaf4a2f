/-
`Files.lean` -- files.

The few things that the library asks of a file system. They are gathered in a class, so that what is
read and written can be followed in a plain value as well as on a disk. Making a directory together
with those above it is put together from them here.
-/
import Signpost.Path

set_option autoImplicit false

namespace Signpost

/-- Why an action on a file failed. -/
inductive FileError where
  | notFound
  | alreadyThere
  | notDirectory
  | isDirectory
  /-- A name on the way, or the whole path, takes up too many bytes. -/
  | nameTooLong
  /-- The path has a zero character in it. -/
  | zeroInPath
  /-- Any other cause, as the system words it. -/
  | other (text : String)
  deriving DecidableEq, Repr

/-- The wording of a cause. -/
def FileError.message : FileError → String
  | .notFound => "No such file or directory (os error 2)"
  | .alreadyThere => "File exists (os error 17)"
  | .notDirectory => "Not a directory (os error 20)"
  | .isDirectory => "Is a directory (os error 21)"
  | .nameTooLong => "File name too long (os error 36)"
  | .zeroInPath => "file name contained an unexpected NUL byte"
  | .other text => text

/-- What a path can lead to. -/
inductive FileKind where
  | file
  | directory
  deriving DecidableEq, Repr

/-- Why a path cannot even be looked up. -/
def Path.fault? (p : Path) : Option FileError :=
  if p.text.toList.contains '\x00' then some .zeroInPath else none

/-- A system of files with a working directory. -/
class MonadFiles (m : Type → Type) where
  /-- The working directory. -/
  cwd : m Path
  /-- What a path leads to. -/
  kind? : Path → m (Option FileKind)
  /-- The text of a file. -/
  readText : Path → ExceptT FileError m String
  /-- Makes the text the contents of a file. -/
  writeText : Path → String → ExceptT FileError m Unit
  /-- Makes one directory, in a directory that is there. -/
  makeDir : Path → ExceptT FileError m Unit

namespace Files

variable {m : Type → Type} [Monad m] [MonadFiles m]

/-- Whether a path leads to a directory. -/
def isDir (p : Path) : m Bool := return (← MonadFiles.kind? p) = some .directory

/-- Whether a path leads to a file. -/
def isFile (p : Path) : m Bool := return (← MonadFiles.kind? p) = some .file

/-- Makes one directory. One that is there already will do. -/
def ensureDir (p : Path) : ExceptT FileError m Unit :=
  tryCatch (MonadFiles.makeDir p) fun e => do
    unless ← isDir (m := m) p do throw e

/-- Makes the first of the paths a directory, each of the others being the one above it. They are
tried only if something above is missing. -/
def ensureChain : List Path → ExceptT FileError m Unit
  | [] => pure ()
  | p :: above =>
    if p.text.isEmpty then pure ()
    else tryCatch (MonadFiles.makeDir p) fun e => do
      if e = .notFound then
        ensureChain above
        ensureDir p
      else unless ← isDir (m := m) p do throw e

/-- Makes a directory and all that are missing above it. -/
def makeDirs (p : Path) : ExceptT FileError m Unit := ensureChain p.ancestors

end Files

end Signpost
