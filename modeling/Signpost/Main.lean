/-
`Main.lean` -- the program.

Runs a command line on the disk and the environment of the process. Everything that is decided is
decided elsewhere; here actions are carried out and texts are handed over.
-/
import Signpost.Command

set_option autoImplicit false

namespace Signpost

/-- The cause with a number of the system, which may come negated. -/
def FileError.ofCode (code : UInt32) (text : String) : FileError :=
  let code := if code < 0x80000000 then code else 0 - code
  if code = 20 then .notDirectory
  else if code = 21 then .isDirectory
  else if code = 36 then .nameTooLong
  else .other (text ++ " (os error " ++ toString code ++ ")")

/-- The cause of a failed action. -/
def FileError.ofSystem : IO.Error → FileError
  | .noFileOrDirectory .. => .notFound
  | .alreadyExists .. => .alreadyThere
  | .inappropriateType _ code text => .ofCode code text
  | .invalidArgument _ code text => .ofCode code text
  | .permissionDenied _ code text => .ofCode code text
  | e => .other e.toString

/-- Carries out an action on what a path leads to. -/
def attempt {α : Type} (p : Path) (action : IO α) : ExceptT FileError IO α :=
  .mk do
    match p.fault? with
    | some e => return .error e
    | none =>
      match ← action.toBaseIO with
      | .ok a => return .ok a
      | .error e => return .error (.ofSystem e)

/-- The text that bytes stand for. -/
def decodeText (bytes : ByteArray) : ExceptT FileError IO String :=
  match String.fromUTF8? bytes with
  | some text => return text
  | none => throw (.other "stream did not contain valid UTF-8")

/-- What a path leads to on the disk. -/
def diskKind? (p : Path) : IO (Option FileKind) := do
  match ← (IO.FS.realPath p.text).toBaseIO with
  | .error _ => return none
  | .ok found =>
    if ← found.isDir then return some .directory
    else if ← found.pathExists then return some .file
    else return none

instance : MonadFiles IO where
  cwd := return ⟨(← IO.currentDir).toString⟩
  kind? := diskKind?
  readText p := do decodeText (← attempt p (IO.FS.readBinFile p.text))
  writeText p text := attempt p (IO.FS.writeFile p.text text)
  makeDir p := attempt p (IO.FS.createDir p.text)

/-- The variables in the environment of the process, which stand one after another with a zero byte
behind each. -/
def environment : IO Environment := do
  let bytes ← IO.FS.readBinFile "/proc/self/environ"
  let text := (String.fromUTF8? bytes).getD ""
  return (Text.split '\x00' text).filterMap (Text.cut? '=')

end Signpost

/-- The program. -/
def main (words : List String) : IO UInt32 := do
  let outcome ← Signpost.Command.runWords (m := IO) (← Signpost.environment) words
  IO.print outcome.output
  IO.eprint outcome.messages
  return .ofNat outcome.code
