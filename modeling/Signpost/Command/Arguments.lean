/-
`Command/Arguments.lean` -- command lines.

A command line is read word by word. Options may stand before the name of the command and after it;
where both give one, the later place counts, and what the environment says counts last. A word that
starts with a dash is an option, or several, unless two dashes alone came before it. An option
stands at most once on each side.
-/
import Signpost.Settings.Environment
import Signpost.Path

set_option autoImplicit false

namespace Signpost

/-- What `resolve` starts from. -/
inductive ResolveSource where
  | signature (text : String)
  /-- A file with a call. -/
  | call (path : Path)
  deriving DecidableEq, Repr

/-- A command. -/
inductive Command where
  | init (force : Bool)
  | config
  | split (signature : String)
  | literal (signature : String)
  | resolve (source : ResolveSource)
  | info
  | service (id : String)
  | parameter (key : String)
  | goto (document : Path) (offset : UInt32) (json : Bool)
  | overlay (document : Path) (offset : UInt32)
  deriving DecidableEq, Repr

/-- A command with what holds for every command. -/
structure Invocation where
  /-- The settings file to use instead of that of the workspace. -/
  config : Option Path
  /-- The snapshot to use instead of that of the settings. -/
  index : Option Path
  debug : Bool
  command : Command
  deriving DecidableEq, Repr

namespace Arguments

/-- Why a command line holds nothing to run. -/
inductive Stop where
  | usage
  | help
  | version
  deriving DecidableEq, Repr

/-! ## Options -/

/-- An option. -/
inductive Opt where
  | config
  | index
  | debug
  | help
  | version
  | force
  | call
  | document
  | offset
  | json
  deriving DecidableEq, Repr

namespace Opt

/-- The name after two dashes. -/
def long : Opt → String
  | .config => "config"
  | .index => "index"
  | .debug => "debug"
  | .help => "help"
  | .version => "version"
  | .force => "force"
  | .call => "call"
  | .document => "document"
  | .offset => "offset"
  | .json => "json"

/-- The letter after one dash. -/
def short? : Opt → Option Char
  | .config => some 'c'
  | .index => some 'i'
  | .help => some 'h'
  | .version => some 'V'
  | .force => some 'f'
  | _ => none

/-- Whether a value follows the option. -/
def takesValue : Opt → Bool
  | .config | .index | .call | .document | .offset => true
  | _ => false

/-- The options of every command. -/
def common : List Opt := [.config, .index, .debug, .help]

end Opt

/-- A number of 32 bits. A sign may stand before its digits. -/
def offset? (text : String) : Option UInt32 :=
  match Environment.integer? text.toList with
  | some n => if 0 ≤ n ∧ n.toNat < UInt32.size then some (.ofNat n.toNat) else none
  | none => none

/-- Whether the text can be the value of the option: paths are not empty, and an offset is one. -/
def accepts (o : Opt) (value : String) : Bool :=
  match o with
  | .offset => (offset? value).isSome
  | _ => !value.isEmpty

/-- What one side of a command line gives. -/
structure Given where
  /-- The options with their values, the last one first. -/
  options : List (Opt × String) := []
  /-- The other words, in order. -/
  operands : List String := []
  deriving DecidableEq, Repr

namespace Given

/-- The value of an option. -/
def value? (g : Given) (o : Opt) : Option String := (g.options.find? (·.1 = o)).map Prod.snd

/-- Whether an option is given. -/
def has (g : Given) (o : Opt) : Bool := (g.value? o).isSome

/-- Adds an option with its value. An option without a value has the empty one. -/
def add (g : Given) (o : Opt) (value : String) : Except Stop Given :=
  if o = .help then .error .help
  else if o = .version then .error .version
  else if g.has o then .error .usage
  else if o.takesValue && !accepts o value then .error .usage
  else .ok { g with options := (o, value) :: g.options }

end Given

/-! ## Words -/

/-- What a word is. -/
inductive Word where
  /-- Two dashes alone: all that follows is operands. -/
  | escape
  | long (name : String) (value : Option String)
  | short (letters : List Char)
  | operand (text : String)
  deriving DecidableEq, Repr

/-- What a word is. A dash alone is an operand. -/
def Word.ofText (text : String) : Word :=
  match text.toList with
  | ['-', '-'] => .escape
  | '-' :: '-' :: rest =>
    match Text.cutChars? '=' rest with
    | some (name, value) => .long (.ofList name) (some (.ofList value))
    | none => .long (.ofList rest) none
  | '-' :: c :: rest => .short (c :: rest)
  | _ => .operand text

/-- What is known after some words: what they give, and the option whose value comes next. -/
abbrev Progress := Given × Option Opt

/-- Reads an option with its full name. -/
def readLong (known : List Opt) (g : Given) (name : String) (value : Option String) :
    Except Stop Progress :=
  match known.find? (·.long = name), value with
  | none, _ => .error .usage
  | some o, some value => if o.takesValue then return (← g.add o value, none) else .error .usage
  | some o, none => if o.takesValue then .ok (g, some o) else return (← g.add o "", none)

/-- Reads options with one letter each. What follows an option with a value is that value, with or
without an equals sign between them. -/
def readShort (known : List Opt) (g : Given) : List Char → Except Stop Progress
  | [] => .ok (g, none)
  | c :: rest =>
    match known.find? (·.short? = some c) with
    | none => .error .usage
    | some o =>
      if o.takesValue then
        if rest.isEmpty then .ok (g, some o)
        else return (← g.add o (.ofList (Text.dropOneChars '=' rest)), none)
      else do readShort known (← g.add o "") rest

/-- Reads the words of one side. After the name of the command there is room for so many operands;
before it, where no room is given, the first operand ends the side. -/
def read (known : List Opt) (room : Option Nat) (g : Given) (pending : Option Opt) :
    List String → Except Stop (Given × List String)
  | [] => if pending.isSome then .error .usage else .ok (g, [])
  | text :: rest =>
    match Word.ofText text, pending with
    | .operand value, some o => do read known room (← g.add o value) none rest
    | _, some _ => .error .usage
    | .escape, none =>
      if (room.any (g.operands.length + rest.length ≤ ·)) then
        .ok ({ g with operands := g.operands ++ rest }, [])
      else .error .usage
    | .long name value, none => do
      let (g, pending) ← readLong known g name value
      read known room g pending rest
    | .short letters, none => do
      let (g, pending) ← readShort known g letters
      read known room g pending rest
    | .operand text, none =>
      match room with
      | none => .ok (g, text :: rest)
      | some n =>
        if g.operands.length < n then
          read known room { g with operands := g.operands ++ [text] } none rest
        else .error .usage

/-! ## Commands -/

/-- What stands after the name of a command: its own options, and how many operands at most. -/
def shape? : String → Option (List Opt × Nat)
  | "init" => some ([.force], 0)
  | "config" | "info" => some ([], 0)
  | "split" | "literal" | "service" | "parameter" => some ([], 1)
  | "resolve" => some ([.call], 1)
  | "goto" => some ([.document, .offset, .json], 0)
  | "overlay" => some ([.document, .offset], 0)
  | _ => none

/-- The command of the given name, from what its side gives. -/
def command? (name : String) (g : Given) : Option Command :=
  let path? (o : Opt) : Option Path := (g.value? o).map Path.mk
  match name, g.operands with
  | "init", [] => some (.init (g.has .force))
  | "config", [] => some .config
  | "split", [text] => some (.split text)
  | "literal", [text] => some (.literal text)
  | "resolve", [text] => if g.has .call then none else some (.resolve (.signature text))
  | "resolve", [] => (path? .call).map fun p => .resolve (.call p)
  | "info", [] => some .info
  | "service", [id] => some (.service id)
  | "parameter", [key] => some (.parameter key)
  | "goto", [] => do
    return .goto (← path? .document) (← (g.value? .offset).bind offset?) (g.has .json)
  | "overlay", [] => do return .overlay (← path? .document) (← (g.value? .offset).bind offset?)
  | _, _ => none

/-- The variable that names a snapshot. -/
def indexVariable : String := "FREF_INDEX"

/-- The snapshot that the environment names. -/
def indexIn? (env : Environment) : Option String := (env.find? (·.1 = indexVariable)).map Prod.snd

/-- The invocation of a named command, from what both sides and the environment give. An empty name
of a snapshot in the environment is refused where a side would have to use it. -/
def invocation (env : Environment) (name : String) (before after : Given) :
    Except Stop Invocation :=
  match command? name after with
  | none => .error .usage
  | some command =>
    if indexIn? env = some "" ∧ !(before.has .index && after.has .index) then .error .usage
    else
      let path? (o : Opt) : Option Path := (after.value? o <|> before.value? o).map Path.mk
      .ok
        { config := path? .config
          index := path? .index <|> (indexIn? env).map Path.mk
          debug := before.has .debug || after.has .debug
          command := command }

/-- Whether words after `help` ask for something that is there. -/
def helpTopic : List String → Bool
  | [] => true
  | ["help"] => true
  | [name] => (shape? name).isSome
  | _ => false

/-- Reads a command line. -/
def parse (env : Environment) (words : List String) : Except Stop Invocation := do
  let (before, rest) ← read (.version :: Opt.common) none {} none words
  match rest with
  | [] => .error .usage
  | "help" :: topic => .error (if helpTopic topic then .help else .usage)
  | name :: rest =>
    match shape? name with
    | none => .error .usage
    | some (own, room) =>
      let (after, _) ← read (own ++ Opt.common) (some room) {} none rest
      invocation env name before after

end Arguments

end Signpost
