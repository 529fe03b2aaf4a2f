/-
`Failure.lean` -- failures and exit codes.

What can go wrong at the outer edge, where files, settings and caret positions come from. Each
failure is a cause with its own data; wording, status, advice and exit code are read off it here and
nowhere else.

Specification: 7 and B.2.
-/
import Signpost.Path

set_option autoImplicit false

namespace Signpost

/-- Why a text could not be used. -/
inductive Reason where
  /-- The text does not have the expected form. -/
  | unreadable
  /-- The text is well formed and breaks a rule that is stated. -/
  | stated (text : String)
  deriving DecidableEq, Repr

/-- The wording of a reason. -/
def Reason.message : Reason → String
  | .unreadable => "the text does not have the expected form"
  | .stated text => text

/-- A failure at the outer edge. -/
inductive Failure where
  | fileRead (path : Path) (reason : String)
  | fileWrite (path : Path) (reason : String)
  | malformed (path : Path) (reason : Reason)
  | unsupportedVersion (found expected : UInt32)
  | tokenNotFound (path : Path) (offset : UInt32)
  | config (reason : Reason)
  | general (text : String)
  deriving DecidableEq, Repr

namespace Failure

/-- The wording of a failure. -/
def message : Failure → String
  | .fileRead path reason => "Failed to read file '" ++ path.text ++ "': " ++ reason
  | .fileWrite path reason => "Failed to write file '" ++ path.text ++ "': " ++ reason
  | .malformed path reason => "Malformed data in '" ++ path.text ++ "': " ++ reason.message
  | .unsupportedVersion found expected =>
    "Unsupported snapshot version " ++ found.toNat.repr
      ++ " (expected " ++ expected.toNat.repr ++ ")"
  | .tokenNotFound path offset =>
    "No token at offset " ++ offset.toNat.repr ++ " in '" ++ path.text ++ "'"
  | .config reason => "Invalid configuration: " ++ reason.message
  | .general text => text

/-- The wording of a failure followed by that of its own cause. -/
def account : Failure → String
  | .fileRead path reason => (Failure.fileRead path reason).message ++ ": " ++ reason
  | .fileWrite path reason => (Failure.fileWrite path reason).message ++ ": " ++ reason
  | f => f.message

/-- The stable name of a kind of failure. -/
def status : Failure → String
  | .fileRead .. => "FILE_READ_ERROR"
  | .fileWrite .. => "FILE_WRITE_ERROR"
  | .malformed .. => "MALFORMED_DATA"
  | .unsupportedVersion .. => "UNSUPPORTED_VERSION"
  | .tokenNotFound .. => "TOKEN_NOT_FOUND"
  | .config .. => "CONFIG_ERROR"
  | .general .. => "GENERAL_ERROR"

/-- What the user can do about a failure. -/
def suggestions : Failure → List String
  | .fileRead .. =>
    ["Check that the file exists and you have read permissions",
      "Pass --index to point at the snapshot exported by your indexer"]
  | .malformed .. =>
    ["Re-export the snapshot or syntax document from the indexer",
      "Validate the JSON against the format described in DESIGN.md"]
  | .unsupportedVersion .. => ["Re-export the snapshot with a matching indexer version"]
  | .tokenNotFound .. =>
    ["Offsets are byte offsets into the original document",
      "Point the caret at a leaf token, not at whitespace between blocks"]
  | .config .. => ["Run 'frameref init --force' to regenerate .frameref/settings.toml"]
  | _ => []

end Failure

/-! ## Exit codes -/

/-- How a command ends. -/
inductive ExitCode where
  | success
  | generalError
  /-- The index cannot be used at all. -/
  | blockingError
  /-- The question has no answer. -/
  | notFound
  | parseError
  | ioError
  | configError
  deriving DecidableEq, Repr

namespace ExitCode

/-- All exit codes by increasing number. -/
def all : List ExitCode :=
  [.success, .generalError, .blockingError, .notFound, .parseError, .ioError, .configError]

/-- The number of an exit code. -/
def toNat : ExitCode → Nat
  | .success => 0
  | .generalError => 1
  | .blockingError => 2
  | .notFound => 3
  | .parseError => 4
  | .ioError => 5
  | .configError => 6

/-- Whether automation should halt. -/
def isBlocking (c : ExitCode) : Bool := c = .blockingError

/-- Whether the command succeeded. -/
def isSuccess (c : ExitCode) : Bool := c = .success

/-- What an exit code says. -/
def description : ExitCode → String
  | .success => "Success"
  | .generalError => "General error"
  | .blockingError => "Blocking error - automation should halt"
  | .notFound => "Not found"
  | .parseError => "Parse error"
  | .ioError => "I/O error"
  | .configError => "Configuration error"

/-- The exit code of a question, by whether it has an answer. -/
def ofAnswer {α : Type} : Option α → ExitCode
  | some _ => .success
  | none => .notFound

/-- The exit code of a failure. -/
def ofFailure : Failure → ExitCode
  | .tokenNotFound .. => .notFound
  | .unsupportedVersion .. => .blockingError
  | .malformed .. => .parseError
  | .fileRead .. => .ioError
  | .fileWrite .. => .ioError
  | .config .. => .configError
  | .general .. => .generalError

end ExitCode

end Signpost
