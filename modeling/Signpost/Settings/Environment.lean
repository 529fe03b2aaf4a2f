/-
`Settings/Environment.lean` -- settings in the environment.

A variable whose name starts with `FREF_`, in any case, sets what the rest of its name says: the
rest is lowercased, and two underscores go one level deeper. Its value is a truth value, a number, a
list `[a, b]`, a table, a quoted text or, failing all these, the text itself.

Specification: B.4.
-/
import Signpost.Toml.Scalar
import Signpost.Toml.Token
import Signpost.Text.Lowercase

set_option autoImplicit false

namespace Signpost

/-- The variables of a process with their values, in order. -/
abbrev Environment := List (String × String)

namespace Environment

/-! ## Names -/

/-- The start of the names that count. -/
def mark : String := "fref_"

/-- What follows the mark in a name. Only the letters `a` to `z` are the same in both cases. -/
def afterMark? (name : String) : Option String :=
  let cs := (Text.trim name).toList
  let length := mark.toList.length
  if (cs.take length).map Char.toLower = mark.toList then some (.ofList (cs.drop length)) else none

/-- A text with a dot for every two underscores, from the left. -/
def dotted : List Char → List Char
  | [] => []
  | '_' :: '_' :: rest => '.' :: dotted rest
  | c :: rest => c :: dotted rest

/-- The keys that a name stands for, outermost first. A name with an empty key stands for none. -/
def keys? (name : String) : Option (List String) := do
  let rest ← afterMark? name
  let keys := Text.split '.' (Text.trim (.ofList (dotted (Text.lower rest).toList)))
  if keys.any (· == "") then none else some keys

/-! ## Plain values -/

/-- Whether the character is one of the blanks that may stand around a value. -/
def isSpace (c : Char) : Bool := c = ' ' || c = '\t' || c = '\n' || c = '\r' || c = '\x0c'

/-- What follows the blanks. -/
def skipSpace (cs : List Char) : List Char := cs.dropWhile isSpace

/-- Whether the character ends a plain value. -/
def isSeparator (c : Char) : Bool :=
  c = ',' || c = '\x7b' || c = '\x7d' || c = '[' || c = ']'

/-- Whether the characters are digits, at least one. -/
def isNumeral (cs : List Char) : Bool := !cs.isEmpty && cs.all Char.isDigit

/-- Whether the characters are an exponent, or nothing. -/
def isExponent : List Char → Bool
  | [] => true
  | e :: rest => (e == 'e' || e == 'E') && isNumeral (Toml.signed rest).2

/-- Whether the characters are a number with a point in it. A digit has to stand on one side. -/
def isDecimal (cs : List Char) : Bool :=
  let body := (Toml.signed cs).2
  match body.dropWhile Char.isDigit with
  | '.' :: rest =>
    (body.head?.any Char.isDigit || rest.head?.any Char.isDigit)
      && isExponent (rest.dropWhile Char.isDigit)
  | _ => false

/-- The whole number that the characters denote, from the least of the signed numbers of 64 bits to
the greatest of the unsigned ones. -/
def integer? (cs : List Char) : Option Int :=
  let (negative, digits) := Toml.signed cs
  if isNumeral digits then
    let n : Int := Text.natOfDigits digits
    let n := if negative then -n else n
    if -0x8000000000000000 ≤ n ∧ n < 0x10000000000000000 then some n else none
  else none

/-- The value of plain characters. -/
def plain (cs : List Char) : Toml :=
  let cs := Text.trimChars cs
  if isDecimal cs then .float (.ofList cs)
  else match integer? cs with
    | some n => .int n
    | none => .text (.ofList cs)

/-! ## Quoted texts -/

/-- The character with the number that digits to base 16 denote. -/
def charOfHex? (digits : List Char) : Option Char :=
  match digits.mapM Json.Token.hexDigit? with
  | some values =>
    let n := values.foldl (fun n d => n * 16 + d) 0
    if n.isValidChar then some (Char.ofNat n) else none
  | none => none

/-- Whether the character may stand for itself in a quoted text. -/
def isBare (c : Char) : Bool := c ≠ Text.doubleQuote && c ≠ '\\' && Toml.Token.isPlain c

/-- The characters up to the closing double quote, and what follows that. -/
def unescaped? (read : List Char) : List Char → Option (List Char × List Char)
  | [] => none
  | '\\' :: 'u' :: a :: b :: c :: d :: rest =>
    (charOfHex? [a, b, c, d]).bind fun x => unescaped? (x :: read) rest
  | '\\' :: 'U' :: a :: b :: c :: d :: e :: f :: g :: h :: rest =>
    (charOfHex? [a, b, c, d, e, f, g, h]).bind fun x => unescaped? (x :: read) rest
  | '\\' :: c :: rest =>
    if c = '/' then none else (Json.Token.escaped? c).bind fun x => unescaped? (x :: read) rest
  | c :: rest =>
    if c = Text.doubleQuote then some (read.reverse, rest)
    else if isBare c then unescaped? (c :: read) rest
    else none

/-- The characters at the start that take up no more than the given number of bytes. -/
def within : Nat → List Char → List Char
  | _, [] => []
  | bytes, c :: rest => if c.utf8Size ≤ bytes then c :: within (bytes - c.utf8Size) rest else []

/-- The text up to the closing double quote, and what follows that. If there are escapes in it, then
what stands before the first of them is kept up to as many bytes as it has characters. -/
def quoted? (cs : List Char) : Option (String × List Char) :=
  let start := cs.takeWhile isBare
  (unescaped? [] (cs.dropWhile isBare)).map fun (tail, rest) =>
    let start := if tail.isEmpty then start else within start.length start
    (.ofList (start ++ tail), rest)

/-! ## Values -/

/-- Whether a character may stand in a key without quotes. -/
def isKeyChar (c : Char) : Bool := c.isAlphanum || c = '_' || c = '-'

/-- A key of a table and what follows it. -/
def key? (cs : List Char) : Option (String × List Char) :=
  match cs with
  | [] => none
  | c :: rest =>
    if c = Text.doubleQuote then quoted? rest
    else if isKeyChar c then some (.ofList (cs.takeWhile isKeyChar), cs.dropWhile isKeyChar)
    else none

mutual

/-- A value, with the blanks around it, and what follows. Each step down uses up one of the steps
that are left, and two for every character are enough. -/
def value? : Nat → List Char → Option (Toml × List Char)
  | 0, _ => none
  | steps + 1, cs =>
    let cs := skipSpace cs
    let read : Option (Toml × List Char) :=
      match cs with
      | 't' :: 'r' :: 'u' :: 'e' :: rest => some (.bool true, rest)
      | 'f' :: 'a' :: 'l' :: 's' :: 'e' :: rest => some (.bool false, rest)
      | '\x7b' :: rest => entries? steps rest
      | '[' :: rest => items? steps rest
      | '\x22' :: rest => (quoted? rest).map fun (s, rest) => (.text s, rest)
      | '\x27' :: rest =>
        match rest with
        | c :: '\x27' :: rest => some (.text c.toString, rest)
        | _ => none
      | cs => some (plain (cs.takeWhile (!isSeparator ·)), cs.dropWhile (!isSeparator ·))
    read.map fun (v, rest) => (v, skipSpace rest)

/-- The items of a list up to its end. A comma may stand after the last. -/
def items? : Nat → List Char → Option (Toml × List Char)
  | 0, _ => none
  | _ + 1, ']' :: rest => some (.array [], rest)
  | steps + 1, cs => do
    let (v, rest) ← value? steps cs
    match rest with
    | ',' :: rest =>
      match ← items? steps rest with
      | (.array items, rest) => some (.array (v :: items), rest)
      | _ => none
    | ']' :: rest => some (.array [v], rest)
    | _ => none

/-- The entries of a table up to its end. Of two with one key the later counts. -/
def entries? : Nat → List Char → Option (Toml × List Char)
  | 0, _ => none
  | _ + 1, '\x7d' :: rest => some (.table [], rest)
  | steps + 1, cs => do
    let (key, rest) ← key? (skipSpace cs)
    match skipSpace rest with
    | '=' :: rest =>
      let (v, rest) ← value? steps (skipSpace rest)
      match rest with
      | ',' :: rest =>
        match ← entries? steps rest with
        | (.table entries, rest) =>
          some (.table (if entries.any (·.1 == key) then entries else (key, v) :: entries), rest)
        | _ => none
      | '\x7d' :: rest => some (.table [(key, v)], rest)
      | _ => none
    | _ => none

end

/-- The value of a variable. A text that is none of the other values stands for itself. -/
def value (text : String) : Toml :=
  let cs := text.toList
  match value? (2 * cs.length + 2) cs with
  | some (v, []) => v
  | _ => .text text

/-! ## The layer -/

/-- A value under nested keys, outermost first. -/
def nested (keys : List String) (v : Toml) : Toml := keys.foldr (fun key v => .table [(key, v)]) v

/-- What a variable sets. -/
def layer? (name text : String) : Option Toml :=
  (keys? name).map fun keys => nested keys (value text)

/-- What the variables set together, later ones over earlier ones. -/
def layer (env : Environment) : Toml :=
  Toml.layered (.table []) (env.filterMap fun (name, text) => layer? name text)

end Environment

end Signpost
