/-
`Declaration/Json.lean` -- the written form of declarations.

A declaration is a tagged record: its kind, its names and its location. Since the kind may be told
last, the whole record is held before it is read, which every value a program writes allows.
-/
import Signpost.Declaration
import Signpost.Location.Json

set_option autoImplicit false

namespace Signpost.Declaration

/-- Writes a declaration. -/
def toJson : Declaration → Json
  | .classDef name l => .obj [("kind", .str "class"), ("fqn", .str name), ("location", l.toJson)]
  | .method owner name l =>
    .obj
      [("kind", .str "method"), ("class", .str owner), ("name", .str name), ("location", l.toJson)]
  | .field owner name l =>
    .obj
      [("kind", .str "field"), ("class", .str owner), ("name", .str name), ("location", l.toJson)]
  | .constant owner name l =>
    .obj [("kind", .str "constant"), ("class", .str owner), ("name", .str name),
      ("location", l.toJson)]
  | .templateBlock name template l =>
    .obj [("kind", .str "template_block"), ("name", .str name), ("template", .str template),
      ("location", l.toJson)]
  | .templateFile name l =>
    .obj [("kind", .str "template_file"), ("name", .str name), ("location", l.toJson)]
  | .translationEntry domain key l =>
    .obj [("kind", .str "translation_entry"), ("domain", .str domain), ("key", .str key),
      ("location", l.toJson)]
  | .translationDomain domain l =>
    .obj [("kind", .str "translation_domain"), ("domain", .str domain), ("location", l.toJson)]
  | .parameter key l =>
    .obj [("kind", .str "parameter"), ("key", .str key), ("location", l.toJson)]

/-- Reads a record of one name and a location. -/
def oneName? (make : String → Location → Declaration) (name : String) (v : Json) :
    Option Declaration :=
  match v.record? [name, "location"] with
  | some [a, l] => do
    return make (← Json.required Json.text? a) (← Json.required Location.ofJson? l)
  | _ => none

/-- Reads a record of two names and a location. -/
def twoNames? (make : String → String → Location → Declaration) (first second : String) (v : Json) :
    Option Declaration :=
  match v.record? [first, second, "location"] with
  | some [a, b, l] => do
    return make (← Json.required Json.text? a) (← Json.required Json.text? b)
      (← Json.required Location.ofJson? l)
  | _ => none

/-- Reads the record of a declaration of the given tag. -/
def ofTagged? (tag : String) (v : Json) : Option Declaration :=
  match tag with
  | "class" => oneName? .classDef "fqn" v
  | "method" => twoNames? .method "class" "name" v
  | "field" => twoNames? .field "class" "name" v
  | "constant" => twoNames? .constant "class" "name" v
  | "template_block" => twoNames? .templateBlock "name" "template" v
  | "template_file" => oneName? .templateFile "name" v
  | "translation_entry" => twoNames? .translationEntry "domain" "key" v
  | "translation_domain" => oneName? .translationDomain "domain" v
  | "parameter" => oneName? .parameter "key" v
  | _ => none

/-- Reads a declaration below the given number of enclosing arrays and objects. -/
def ofJson? (level : Nat) (v : Json) : Option Declaration :=
  if v.holdable level then v.tagged?.bind fun (tag, rest) => ofTagged? tag rest else none

end Signpost.Declaration
