/-
`Signature/Resolve.lean` -- looking signatures up.

What the argument part of an encoded signature stands for, and what a signature with alternatives
names. A reference to the class constant `class` is answered from its text alone; every other
reference takes the first declaration that the index holds under it.

Specification: 4.2, B.6, items 1 and 2, and B.9.
-/
import Signpost.Signature
import Signpost.Index

set_option autoImplicit false

namespace Signpost.Lookups

/-- The class path in a reference to the constant `class`, whose name older indexers left out. -/
def classConstant? (s : String) : Option String :=
  (Text.after? "#K#C" s).bind fun path => Text.before? ".class" path <|> Text.before? "." path

/-- The literal that an argument stands for. -/
def literal (i : Lookups) (argument : String) : Except Miss String :=
  match classConstant? argument with
  | some path => .ok path
  | none =>
    if Signature.isDeferred argument then
      match i.bySignature argument with
      | [] => .error (.notFound argument)
      | d :: _ =>
        match i.literalOf? d with
        | some value => .ok value
        | none => .error (.nonLiteral argument)
    else .ok argument

/-- The literal that an argument stands for, if there is one. -/
def literal? (i : Lookups) (argument : String) : Option String := (i.literal argument).toOption

/-- The declarations that a signature names, which may be a union. Empty alternatives name nothing. -/
def byType (i : Lookups) (signature : String) : List Declaration :=
  if signature.toList.contains Signature.unionMark then
    Declaration.distinct
      (((Signature.branches signature).filter (!·.isEmpty)).flatMap i.bySignature)
  else i.bySignature signature

end Signpost.Lookups

namespace Signpost.Declaration

/-- The given declarations and one more, without identical ones. -/
def merge (ds : List Declaration) (extra : Declaration) : List Declaration :=
  distinct (ds ++ [extra])

end Signpost.Declaration
