/-
`Index/RecordJson.lean` -- the written form of index records.

Each record as a JSON object. Fields without a value are left out, and a template without blocks
still names them.
-/
import Signpost.Index.Record
import Signpost.Declaration.Json

set_option autoImplicit false

namespace Signpost

namespace ServiceDefinition

/-- Writes a service definition. -/
def toJson (d : ServiceDefinition) : Json :=
  .obj (("id", .str d.id) :: (Json.optionalField "class" .str d.className
    ++ Json.optionalField "alias" .str d.aliasOf
    ++ Json.optionalField "location" Location.toJson d.location))

/-- Reads a service definition. -/
def ofJson? (v : Json) : Option ServiceDefinition :=
  match v.record? ["id", "class", "alias", "location"] with
  | some [id, className, aliasOf, location] => do
    return ⟨← Json.required Json.text? id, ← Json.optional Json.text? className,
      ← Json.optional Json.text? aliasOf, ← Json.optional Location.ofJson? location⟩
  | _ => none

end ServiceDefinition

namespace ParameterDefinition

/-- Writes a parameter definition. -/
def toJson (d : ParameterDefinition) : Json :=
  .obj (("key", .str d.key) :: (Json.optionalField "value" .str d.value
    ++ Json.optionalField "location" Location.toJson d.location))

/-- Reads a parameter definition. -/
def ofJson? (v : Json) : Option ParameterDefinition :=
  match v.record? ["key", "value", "location"] with
  | some [key, value, location] => do
    return ⟨← Json.required Json.text? key, ← Json.optional Json.text? value,
      ← Json.optional Location.ofJson? location⟩
  | _ => none

end ParameterDefinition

namespace ArgumentInfo

/-- Writes a constructor argument. -/
def toJson (a : ArgumentInfo) : Json :=
  .obj (("name", .str a.name) :: (Json.optionalField "type_hint" .str a.typeHint
    ++ Json.optionalField "default" .str a.default))

/-- Reads a constructor argument. -/
def ofJson? (v : Json) : Option ArgumentInfo :=
  match v.record? ["name", "type_hint", "default"] with
  | some [name, typeHint, default] => do
    return ⟨← Json.required Json.text? name, ← Json.optional Json.text? typeHint,
      ← Json.optional Json.text? default⟩
  | _ => none

end ArgumentInfo

namespace ClassInfo

/-- Writes a class. -/
def toJson (c : ClassInfo) : Json :=
  .obj (("fqn", .str c.name) :: ("location", c.location.toJson)
    :: (Json.optionalField "parent" .str c.parent
      ++ Json.optionalField "constructor" (fun as => .arr (as.map ArgumentInfo.toJson))
        c.constructor))

/-- Reads a class. -/
def ofJson? (v : Json) : Option ClassInfo :=
  match v.record? ["fqn", "location", "parent", "constructor"] with
  | some [name, location, parent, constructor] => do
    return ⟨← Json.required Json.text? name, ← Json.required Location.ofJson? location,
      ← Json.optional Json.text? parent,
      ← Json.optional (Json.list? ArgumentInfo.ofJson?) constructor⟩
  | _ => none

end ClassInfo

namespace BlockInfo

/-- Writes a block. -/
def toJson (b : BlockInfo) : Json := .obj [("name", .str b.name), ("location", b.location.toJson)]

/-- Reads a block. -/
def ofJson? (v : Json) : Option BlockInfo :=
  match v.record? ["name", "location"] with
  | some [name, location] => do
    return ⟨← Json.required Json.text? name, ← Json.required Location.ofJson? location⟩
  | _ => none

end BlockInfo

namespace Template

/-- Writes a template. -/
def toJson (t : Template) : Json :=
  .obj [("name", .str t.name), ("location", t.location.toJson),
    ("blocks", .arr (t.blocks.map BlockInfo.toJson))]

/-- Reads a template. -/
def ofJson? (v : Json) : Option Template :=
  match v.record? ["name", "location", "blocks"] with
  | some [name, location, blocks] => do
    return ⟨← Json.required Json.text? name, ← Json.required Location.ofJson? location,
      ← Json.orElse [] (Json.list? BlockInfo.ofJson?) blocks⟩
  | _ => none

end Template

namespace Route

/-- Writes a route. -/
def toJson (r : Route) : Json :=
  .obj (("name", .str r.name) :: (Json.optionalField "controller" .str r.controller
    ++ Json.optionalField "path" .str r.path))

/-- Reads a route. -/
def ofJson? (v : Json) : Option Route :=
  match v.record? ["name", "controller", "path"] with
  | some [name, controller, path] => do
    return ⟨← Json.required Json.text? name, ← Json.optional Json.text? controller,
      ← Json.optional Json.text? path⟩
  | _ => none

end Route

end Signpost
