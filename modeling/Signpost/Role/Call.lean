/-
`Role/Call.lean` -- calls in templates.

Inside a print block or tag a call is a flat run of tokens. A token is a whole argument of a call
when it stands between an opening parenthesis or comma and a closing parenthesis or comma. The
opening parenthesis of its call is found by going back over balanced brackets, counting the commas
outside them, and the identifier before it is the callee. In the filter form `value|name(…)` the
filtered value counts as argument 0.

Specification: 4.4.
-/
import Signpost.Document.Navigation

set_option autoImplicit false

namespace Signpost.Document

/-- A call that a token is a whole argument of. -/
structure Call where
  callee : NodeId
  /-- The opening parenthesis. -/
  opening : NodeId
  /-- The number of the argument. -/
  position : Nat
  /-- Whether the call is a filter. -/
  filter : Bool
  deriving DecidableEq, Repr

/-- Whether a token opens a bracket. -/
def isOpening (d : Document) (id : NodeId) : Bool :=
  d.isPunct "(" id || d.isPunct "[" id || d.isPunct "\x7b" id

/-- Whether a token closes a bracket. -/
def isClosing (d : Document) (id : NodeId) : Bool :=
  d.isPunct ")" id || d.isPunct "]" id || d.isPunct "\x7d" id

/-- Goes back over tokens, nearest first, to the parenthesis that opens the argument list at hand,
and counts the commas between its arguments. A list or hash on the way is no argument list. -/
def openingBefore? (d : Document) (depth commas : Nat) : List NodeId → Option (NodeId × Nat)
  | [] => none
  | t :: rest =>
    if d.isClosing t then d.openingBefore? (depth + 1) commas rest
    else if d.isOpening t then
      match depth with
      | 0 => if d.isPunct "(" t then some (t, commas) else none
      | depth + 1 => d.openingBefore? depth commas rest
    else if depth = 0 && d.isPunct "," t then d.openingBefore? depth (commas + 1) rest
    else d.openingBefore? depth commas rest

/-- The call that a token is a whole argument of. -/
def enclosingCall? (d : Document) (id : NodeId) : Option Call := do
  let before ← d.prevSignificant? id
  let after ← d.nextSignificant? id
  if !(d.isPunct "(" before || d.isPunct "," before) then none
  else if !(d.isPunct ")" after || d.isPunct "," after) then none
  else
    let (opening, commas) ← d.openingBefore? 0 0 (d.preceding id)
    let callee ← (d.prevSignificant? opening).filter (d.isKind .identifier)
    let filter := (d.prevSignificant? callee).any (d.isPunct "|")
    return ⟨callee, opening, commas + if filter then 1 else 0, filter⟩

/-- Gathers arguments from the tokens after an opening parenthesis. `done` holds the finished
arguments and `current` the one at hand, both last first. -/
def gatherArguments (d : Document) (depth : Nat) (done : List (List NodeId))
    (current : List NodeId) :
    List NodeId → List (List NodeId)
  | [] => finishArguments done current
  | t :: rest =>
    if depth = 0 && d.isPunct ")" t then finishArguments done current
    else
      let depth := if d.isOpening t then depth + 1 else if d.isClosing t then depth - 1 else depth
      if depth = 0 && d.isPunct "," t then
        d.gatherArguments depth (current.reverse :: done) [] rest
      else if d.isWhitespace t then d.gatherArguments depth done current rest
      else d.gatherArguments depth done (t :: current) rest
where
  /-- The last argument counts unless the list is empty altogether. -/
  finishArguments (done : List (List NodeId)) (current : List NodeId) : List (List NodeId) :=
    if current.isEmpty && done.isEmpty then [] else (current.reverse :: done).reverse

/-- The arguments of the call that a parenthesis opens, without whitespace. -/
def callArguments (d : Document) (opening : NodeId) : List (List NodeId) :=
  d.gatherArguments 0 [] [] (d.following opening)

end Signpost.Document
