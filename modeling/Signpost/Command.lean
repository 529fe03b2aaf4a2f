/-
`Command.lean` -- commands.

What each command prints and how it ends. A command first loads the settings, then whatever files it
asks about. Answers go to the output, everything else to the messages, and the exit code tells an
answer from a question without one and from a failure.

Specification: B.8.
-/
import Signpost.Command.Arguments
import Signpost.Workspace
import Signpost.Project.Goto
import Signpost.Project.Overlay

set_option autoImplicit false

namespace Signpost

/-- How a command ends: its exit code, its output and its messages. -/
structure Outcome where
  code : Nat
  output : String := ""
  messages : String := ""
  deriving DecidableEq, Repr

namespace Outcome

/-- A line of text. -/
def line (text : String) : String := text ++ "\n"

/-- The lines of several texts. -/
def lines (texts : List String) : String := String.join (texts.map line)

/-- An answer. -/
def answer (texts : List String) : Outcome :=
  { code := ExitCode.success.toNat, output := lines texts }

/-- A question without an answer. -/
def noAnswer (text : String) : Outcome := { code := ExitCode.notFound.toNat, messages := line text }

/-- A failure, after what was being done, with what can be done about it. -/
def ofFailure (doing : String) (f : Failure) : Outcome :=
  { code := (ExitCode.ofFailure f).toNat
    messages := line ("Error: " ++ doing ++ f.account)
      ++ lines (f.suggestions.map fun s => "  - " ++ s) }

/-- A failure that is none of the usual ones. -/
def error (text : String) : Outcome :=
  { code := ExitCode.generalError.toNat, messages := line ("Error: " ++ text) }

/-- What the program is called, with its version. -/
def versionText : String := "frameref 0.1.0"

/-- How the program is used. -/
def usageText : String :=
  "Usage: frameref [--config FILE] [--index FILE] [--debug] COMMAND\n\n"
    ++ "Commands: init, config, split, literal, resolve, info, service, parameter, goto, overlay\n"

/-- The end of a command line that holds nothing to run. -/
def ofStop : Arguments.Stop → Outcome
  | .usage => { code := 2, messages := usageText }
  | .help => { code := 0, output := usageText }
  | .version => { code := 0, output := line versionText }

end Outcome

namespace Command

variable {m : Type → Type} [Monad m] [MonadFiles m]

/-- The answer to a question with at most one, or the usual words for none. -/
def ofAnswer : Option String → Outcome
  | some text => .answer [text]
  | none => .noAnswer "No answer"

/-- Ends the command if loading fails. -/
def loading {α : Type} (doing : String) (x : ExceptT Failure m α) : ExceptT Outcome m α :=
  x.adapt (Outcome.ofFailure doing)

/-! ## Answers -/

/-- A branch of a union, its base and its argument apart. -/
def splitLine (delimiter : Char) (branch : String) : String :=
  match Signature.split? delimiter branch with
  | some (base, argument) => base ++ "\t" ++ argument
  | none => branch

/-- What the index holds. -/
def statsLines (s : Index.Stats) : List String :=
  ["Elements:     " ++ s.elements.repr, "Services:     " ++ s.services.repr,
    "Parameters:   " ++ s.parameters.repr, "Classes:      " ++ s.classes.repr,
    "Templates:    " ++ s.templates.repr, "Routes:       " ++ s.routes.repr,
    "Translations: " ++ s.translations.repr]

/-- The class of a service and, if it is indexed, how it is constructed. -/
def serviceText? (p : Project) (id : String) : Option String :=
  (p.container.serviceClass? id).map fun name =>
    match p.classOverlay? name with
    | some summary => name ++ "\n" ++ summary
    | none => name

/-- The declarations that a token refers to, as JSON. -/
def gotoJson (offset : UInt32) (token : String) (targets : List Declaration) : Json :=
  .obj
    [("offset", .nat offset.toNat), ("token", .str token),
      ("targets", .arr (targets.map Declaration.toJson))]

/-- The declarations that a token refers to. -/
def gotoOutcome (p : Project) (d : Document) (offset : UInt32) (id : NodeId) (json : Bool) :
    Outcome :=
  let token := d.textOf id
  match p.goto? d id with
  | none => .noAnswer ("No declaration found for '" ++ token ++ "'")
  | some targets =>
    if json then .answer [(gotoJson offset token targets).pretty]
    else if targets.isEmpty then .answer ["'" ++ token ++ "' resolves to nothing navigable"]
    else .answer (targets.map Declaration.display)

/-! ## Running -/

/-- The index that a command reads. `snapshot` names the one to use instead of that of the
settings. -/
def index (settings : Settings) (snapshot : Option Path) : ExceptT Outcome m Index :=
  loading "" (Workspace.loadIndex (snapshot.getD settings.resolvedIndexPath))

/-- The project with the given settings. -/
def project (settings : Settings) (snapshot : Option Path) : ExceptT Outcome m Project := do
  return ⟨← index settings snapshot, settings⟩

/-- The classes that `resolve` prints. -/
def resolvedClasses (p : Project) : ResolveSource → ExceptT Outcome m (List String)
  | .signature text =>
    return p.container.signatureClasses text p.settings.signatures.delimiter
  | .call path => do
    let text ← (MonadFiles.readText path).adapt fun e =>
      Outcome.error ("Failed to read call site " ++ path.text ++ ": " ++ e.message)
    match (Json.parse? text).bind CallSite.ofJson? with
    | none =>
      let reason := Reason.unreadable.message
      throw (Outcome.error ("Malformed call site " ++ path.text ++ ": " ++ reason))
    | some call =>
      return p.container.callClasses call p.settings.signatures.delimiter
        p.settings.signatures.expectedArgumentCount.toNat

/-- Runs a command with the given settings, on the index that they or `snapshot` name. -/
def run (settings : Settings) (snapshot : Option Path) : Command → ExceptT Outcome m Outcome
  | .init force => do
    let path ← (Workspace.setUp force).adapt fun e =>
      Outcome.error ("Failed to create configuration: " ++ e.message)
    return .answer ["Created configuration file at: " ++ path.text]
  | .config =>
    return .answer
      ["Current Configuration:", .ofList (List.replicate 50 '='), settings.print]
  | .split signature =>
    return .answer
      ((Signature.branches signature).map (splitLine settings.signatures.delimiter))
  | .literal signature => do
    match (← project settings snapshot).index.literal signature with
    | .ok value => return .answer [value]
    | .error miss => return .noAnswer ("No literal: " ++ miss.message)
  | .resolve source => do
    let classes ← resolvedClasses (← project settings snapshot) source
    return if classes.isEmpty then .noAnswer "No service class" else .answer classes
  | .info => do
    let index ← index settings snapshot
    return if index.isEmpty then .noAnswer "Index snapshot is empty"
      else .answer (statsLines index.stats)
  | .service id => return ofAnswer (serviceText? (← project settings snapshot) id)
  | .parameter key => return ofAnswer ((← project settings snapshot).container.parameterValue? key)
  | .goto path offset json => do
    let p ← project settings snapshot
    let d ← loading "" (Workspace.loadDocument path)
    match d.requireTokenAt offset with
    | .ok id => return gotoOutcome p d offset id json
    | .error f => throw (Outcome.ofFailure "" f)
  | .overlay path offset => do
    let p ← project settings snapshot
    let d ← loading "Failed to load syntax document: " (Workspace.loadDocument path)
    return ofAnswer ((p.overlayAt? d offset).map Overlay.text)

/-- Loads the settings and runs the command. -/
def invoke (env : Environment) (i : Invocation) : ExceptT Outcome m Outcome := do
  let settings ← loading "" (match i.config with
    | some path => Workspace.loadFrom env path
    | none => Workspace.load env)
  run { settings with debug := settings.debug || i.debug } i.index i.command

/-- Runs a command line. -/
def runWords (env : Environment) (words : List String) : m Outcome :=
  match Arguments.parse env words with
  | .error stop => return .ofStop stop
  | .ok i => do
    match ← (invoke env i).run with
    | .ok outcome => return outcome
    | .error outcome => return outcome

end Command

end Signpost
