/-
`Workspace.lean` -- workspaces.

Where a project keeps its settings and its index, and how these are found, read and written. The
workspace is the nearest directory, from the working directory upwards, that holds a directory
`.frameref`. A settings file named by a relative path is looked for in the same way, directory by
directory; one that is found nowhere sets nothing.

Specification: B.4 and B.7.
-/
import Signpost.Files
import Signpost.Settings.Layers
import Signpost.Index.Snapshot
import Signpost.Document.Json

set_option autoImplicit false

namespace Signpost

/-- Why settings could not be written. -/
inductive WriteError where
  /-- There is a settings file that is to be kept. -/
  | settingsThere
  /-- The path has no directory to write into. -/
  | noDirectory
  | file (cause : FileError)
  deriving DecidableEq, Repr

/-- The wording of a cause. -/
def WriteError.message : WriteError → String
  | .settingsThere => "Configuration file already exists. Use --force to overwrite"
  | .noDirectory => "Invalid path"
  | .file cause => cause.message

namespace Workspace

variable {m : Type → Type} [Monad m] [MonadFiles m]

/-- The directory of a workspace that holds its settings. -/
def directory : Path := ⟨".frameref"⟩

/-- The settings file of a workspace, seen from its root. -/
def settingsPath : Path := directory.join ⟨"settings.toml"⟩

/-! ## Reading settings -/

/-- The first of the directories that holds a settings directory. -/
def rootAmong : List Path → m (Option Path)
  | [] => return none
  | dir :: rest => do if ← Files.isDir (dir.join directory) then return some dir else rootAmong rest

/-- The root of the workspace. -/
def root? : m (Option Path) := do rootAmong (← MonadFiles.cwd).ancestors

/-- The first of the paths that leads to a file. -/
def firstFile : List Path → m (Option Path)
  | [] => return none
  | p :: rest => do if ← Files.isFile p then return some p else firstFile rest

/-- The file that a path stands for, a relative path being looked for upwards. -/
def findFile? (p : Path) : m (Option Path) := do
  if p.isAbsolute then firstFile [p]
  else firstFile ((← MonadFiles.cwd).ancestors.map fun dir => dir.join p)

/-- The settings that a file and the environment make up. -/
def loadFrom (env : Environment) (p : Path) : ExceptT Failure m Settings := do
  match ← findFile? (m := m) p with
  | none => Settings.load none env
  | some file =>
    let text ← (MonadFiles.readText file).adapt fun _ => .config .unreadable
    Settings.load (some text) env

/-- The settings of the workspace. Unless they say otherwise its root is the one that was found. -/
def load (env : Environment) : ExceptT Failure m Settings := do
  let root ← root? (m := m)
  let settings ← loadFrom env (match root with
    | some dir => dir.join settingsPath
    | none => settingsPath)
  return { settings with workspaceRoot := settings.workspaceRoot <|> root }

/-! ## Writing settings -/

/-- Writes settings to a file, in a directory that is made if it is missing. -/
def save (s : Settings) (p : Path) : ExceptT WriteError m Unit := do
  match p.parent? with
  | none => throw .noDirectory
  | some dir =>
    (Files.makeDirs dir).adapt .file
    (MonadFiles.writeText p s.print).adapt .file

/-- The value of a setting as it is written. -/
def written (v : Toml) : String := Toml.inline v

/-- A list of names as it is written. -/
def writtenNames (names : List String) : String := written (.array (names.map .text))

/-- The text of a settings file that sets every setting to its usual value and says what it means. -/
def template : String :=
  let s := Settings.default
  "# frameref configuration\n\n"
    ++ "# Version of the configuration schema\n"
    ++ "version = " ++ written (.int s.version.toNat) ++ "\n\n"
    ++ "# Global debug mode\n"
    ++ "debug = " ++ written (.bool s.debug) ++ "\n\n"
    ++ "# Framework support; set to false to switch every lookup off\n"
    ++ "enabled = " ++ written (.bool s.enabled) ++ "\n\n"
    ++ "# Index snapshot exported by the project indexer (relative to workspace root)\n"
    ++ "index_path = " ++ written (.text s.indexPath.text) ++ "\n\n"
    ++ "[signatures]\n"
    ++ "# Separates a call-site signature from its argument\n"
    ++ "delimiter = " ++ written (.text s.signatures.delimiter.toString) ++ "\n"
    ++ "# Only call sites with exactly this many arguments are encoded\n"
    ++ "expected_argument_count = " ++ written (.int s.signatures.expectedArgumentCount.toNat)
    ++ "\n\n"
    ++ "[templates]\n"
    ++ "trans_function = " ++ written (.text s.templates.transFunction) ++ "\n"
    ++ "default_domain = " ++ written (.text s.templates.defaultDomain) ++ "\n"
    ++ "default_domain_tag = " ++ written (.text s.templates.defaultDomainTag) ++ "\n"
    ++ "route_functions = " ++ writtenNames s.templates.routeFunctions ++ "\n"
    ++ "file_tags = " ++ writtenNames s.templates.fileTags ++ "\n"
    ++ "file_functions = " ++ writtenNames s.templates.fileFunctions ++ "\n"
    ++ "block_function = " ++ written (.text s.templates.blockFunction) ++ "\n\n"
    ++ "[container]\n"
    ++ "# Alias hops followed before a service is given up on\n"
    ++ "max_alias_depth = " ++ written (.int s.container.maxAliasDepth.toNat) ++ "\n"
    ++ "# Parent classes searched for an inherited constructor\n"
    ++ "max_parent_depth = " ++ written (.int s.container.maxParentDepth.toNat) ++ "\n"

/-- Makes the working directory a workspace. A settings file that is there is kept unless it may be
written over. -/
def setUp (force : Bool) : ExceptT WriteError m Path := do
  let dir : Path := Path.join ⟨"."⟩ directory
  let p : Path := Path.join ⟨"."⟩ settingsPath
  if !force && (← MonadFiles.kind? (m := m) p).isSome then throw .settingsThere
  (Files.makeDirs dir).adapt .file
  (MonadFiles.writeText p template).adapt .file
  return p

/-! ## Indexes and documents -/

/-- Reads a file. -/
def readFile (p : Path) : ExceptT Failure m String :=
  (MonadFiles.readText p).adapt fun e => .fileRead p e.message

/-- Reads the index that a file holds. -/
def loadIndex (p : Path) : ExceptT Failure m Index := do
  let text ← readFile p
  return (← Snapshot.read p text).toIndex

/-- Reads the document that a file holds. -/
def loadDocument (p : Path) : ExceptT Failure m Document := do
  let text ← readFile p
  Document.read p text

/-- Writes a snapshot to a file, in a directory that is made if it is missing. -/
def saveIndex (s : Snapshot) (p : Path) : ExceptT Failure m Unit := do
  match p.parent? with
  | some dir => (Files.makeDirs dir).adapt fun e => .fileWrite dir e.message
  | none => pure ()
  (MonadFiles.writeText p s.write).adapt fun e => .fileWrite p e.message

end Workspace

end Signpost
