/-
`Signature/Call.lean` -- calls.

A call whose argument may decide the type of its result. It is encoded when the called method has a
signature, the number of arguments is the expected one, and the first argument is a non-empty string
literal or a reference to a constant or a field.

Specification: 4.1.
-/
import Signpost.Signature
import Signpost.Json.Decode

set_option autoImplicit false

namespace Signpost

/-- An argument of a call, as the source parser reports it. -/
inductive Argument where
  /-- A string literal, without its quotes. -/
  | stringLiteral (contents : String)
  /-- A class constant, by its own signature. -/
  | classConstant (signature : String)
  /-- A field of the object at hand, by its own signature. -/
  | fieldReference (signature : String)
  | other (description : String)
  deriving DecidableEq, Repr

/-- What of an argument a signature can carry. -/
def Argument.payload? : Argument → Option String
  | .stringLiteral s => some s
  | .classConstant s => some s
  | .fieldReference s => some s
  | .other _ => none

/-- A method call. -/
structure CallSite where
  /-- The signature of the called method, if it is known. -/
  signature : Option String
  arguments : List Argument
  deriving DecidableEq, Repr

namespace CallSite

/-- The number of arguments expected unless the settings name another. -/
def defaultArgumentCount : Nat := 1

/-- The signature that carries the call and its first argument. -/
def encode (call : CallSite) (delimiter : Char) (expected : Nat) : Except Miss String :=
  match call.signature, call.arguments.head?.bind Argument.payload? with
  | some base, some payload =>
    if base.isEmpty || call.arguments.length != expected || payload.isEmpty then
      .error .unencodable
    else .ok (base ++ String.singleton delimiter ++ payload)
  | _, _ => .error .unencodable

/-- The signature that carries the call, if there is one. -/
def encode? (call : CallSite) (delimiter : Char) (expected : Nat) : Option String :=
  (call.encode delimiter expected).toOption

end CallSite

/-! ## The written form -/

namespace Argument

/-- Writes an argument. -/
def toJson : Argument → Json
  | .stringLiteral s => .obj [("kind", .str "string_literal"), ("contents", .str s)]
  | .classConstant s => .obj [("kind", .str "class_constant"), ("signature", .str s)]
  | .fieldReference s => .obj [("kind", .str "field_reference"), ("signature", .str s)]
  | .other s => .obj [("kind", .str "other"), ("description", .str s)]

/-- Reads a record of one text. -/
def oneText? (make : String → Argument) (name : String) (v : Json) : Option Argument :=
  match v.record? [name] with
  | some [s] => (Json.required Json.text? s).map make
  | _ => none

/-- Reads an argument below the given number of enclosing arrays and objects. -/
def ofJson? (level : Nat) (v : Json) : Option Argument :=
  if v.holdable level then
    v.tagged?.bind fun (tag, rest) =>
      match tag with
      | "string_literal" => oneText? .stringLiteral "contents" rest
      | "class_constant" => oneText? .classConstant "signature" rest
      | "field_reference" => oneText? .fieldReference "signature" rest
      | "other" => oneText? .other "description" rest
      | _ => none
  else none

end Argument

namespace CallSite

/-- Writes a call. -/
def toJson (c : CallSite) : Json :=
  .obj [("signature", Json.ofOption Json.str c.signature),
    ("arguments", .arr (c.arguments.map Argument.toJson))]

/-- Reads a call. -/
def ofJson? (v : Json) : Option CallSite :=
  match v.record? ["signature", "arguments"] with
  | some [signature, arguments] => do
    return ⟨← Json.optional Json.text? signature,
      ← Json.required (Json.list? (Argument.ofJson? 2)) arguments⟩
  | _ => none

end CallSite

end Signpost
