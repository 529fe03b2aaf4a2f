/-
`Proofs/Declaration/Json.lean` -- written places and declarations.

Paths, spans, ranges and locations are records, so their slots decide. A declaration is a tagged
record: it has to be fit to be held, its tag has to lead to the reader of its own kind, and that
reader has to find the names and the location again. The nine kinds share two forms, with one name
and with two.
-/
import Signpost.Declaration.Json
import Signpost.Proofs.Json.Record

set_option autoImplicit false

namespace Signpost

open Json

/-! ## Places -/

theorem Path.readsBack : ReadsBack Path.toJson Path.ofJson? where
  plain := fun p => .str p.text
  ne_null := nofun
  back := fun _ => rfl

theorem Span.readsBack : ReadsBack Span.toJson Span.ofJson? :=
  readsBack_of_slots
    [.always "start" start readsBack_uint32, .always "end" stop readsBack_uint32]
    (by decide) (fun _ => rfl)
    (by
      intro s v hv
      simp only [List.map_cons, List.map_nil, Slot.always] at hv
      simp [ofJson?, hv, readsBack_uint32.required])

theorem Range.readsBack : ReadsBack Range.toJson Range.ofJson? :=
  readsBack_of_slots
    [.always "start_line" startLine readsBack_uint32,
      .always "start_column" startColumn readsBack_uint16,
      .always "end_line" endLine readsBack_uint32, .always "end_column" endColumn readsBack_uint16]
    (by decide) (fun _ => rfl)
    (by
      intro r v hv
      simp only [List.map_cons, List.map_nil, Slot.always] at hv
      simp [ofJson?, hv, readsBack_uint32.required, readsBack_uint16.required])

theorem Location.readsBack : ReadsBack Location.toJson Location.ofJson? :=
  readsBack_of_slots
    [.always "path" path Path.readsBack, .whenSome "range" range Range.readsBack]
    (by decide) (by rintro ⟨p, _ | r⟩ <;> rfl)
    (by
      intro l v hv
      simp only [List.map_cons, List.map_nil, Slot.always, Slot.whenSome] at hv
      simp [ofJson?, hv, Path.readsBack.required, Range.readsBack.optional])

/-- A location can be held with two levels to spare, its own and that of its range. -/
theorem Location.holdable_toJson (l : Location) {level : Nat} (h : level + 2 < heldLevels) :
    l.toJson.holdable level = true := by
  have hline : ∀ n : UInt32, (Json.nat n.toNat).holdable (level + 2) = true := fun n =>
    holdable_nat _ n.toNat_lt_size
  have hcolumn : ∀ n : UInt16, (Json.nat n.toNat).holdable (level + 2) = true := fun n =>
    holdable_nat _ (n.toNat_lt_size.trans (by decide))
  have hrange : ∀ r : Range, r.toJson.holdable (level + 1) = true := fun r =>
    holdable_obj h (by simp [hline, hcolumn])
  refine holdable_obj (by omega) ?_
  obtain ⟨p, _ | r⟩ := l
  · simp [optionalField, Path.toJson, holdable_str]
  · simp [optionalField, Path.toJson, holdable_str, hrange]

/-! ## Declarations -/

namespace Declaration

/-- The fields of a declaration after its kind: the given names, and the location. -/
def fieldsWith (names : List (String × String)) (l : Location) : List (String × Json) :=
  names.map (fun n => (n.1, .str n.2)) ++ [("location", l.toJson)]

theorem forall_mem_fieldsWith {P : String × Json → Prop} {names : List (String × String)}
    {l : Location} (hnames : ∀ n ∈ names, P (n.1, .str n.2)) (hlocation : P ("location", l.toJson)) :
    ∀ f ∈ fieldsWith names l, P f := by
  intro f hf
  rcases List.mem_append.mp hf with hf | hf
  · obtain ⟨n, hn, rfl⟩ := List.mem_map.mp hf
    exact hnames n hn
  · rwa [List.mem_singleton.mp hf]

theorem oneName?_fieldsWith (make : String → Location → Declaration) (name : String)
    (hname : name ≠ "location") (a : String) (l : Location) :
    oneName? make name (.obj (fieldsWith [(name, a)] l)) = some (make a l) := by
  have hrecord : (Json.obj (fieldsWith [(name, a)] l)).record? [name, "location"]
      = some [some (.str a), some l.toJson] :=
    record?_fieldsOf (by simp [hname]) [some (.str a), some l.toJson] rfl
  simp [oneName?, hrecord, readsBack_text.required, Location.readsBack.required]

theorem twoNames?_fieldsWith (make : String → String → Location → Declaration)
    (first second : String) (hnodup : [first, second, "location"].Nodup) (a b : String)
    (l : Location) : twoNames? make first second (.obj (fieldsWith [(first, a), (second, b)] l))
      = some (make a b l) := by
  have hrecord : (Json.obj (fieldsWith [(first, a), (second, b)] l)).record?
      [first, second, "location"] = some [some (.str a), some (.str b), some l.toJson] :=
    record?_fieldsOf hnodup [some (.str a), some (.str b), some l.toJson] rfl
  simp [twoNames?, hrecord, readsBack_text.required, Location.readsBack.required]

/-- **Every kind has its tag.** A declaration is written as a tag, some names and its location, and
the tag leads to the reader that makes the declaration from these. -/
theorem exists_tag (d : Declaration) : ∃ tag names, (∀ n ∈ names, n.1 ≠ "kind") ∧
    d.toJson = .obj (("kind", .str tag) :: fieldsWith names d.location) ∧
    ofTagged? tag (.obj (fieldsWith names d.location)) = some d := by
  cases d with
  | classDef name l =>
    exact ⟨"class", [("fqn", name)], by simp, rfl,
      oneName?_fieldsWith .classDef "fqn" (by decide) name l⟩
  | method owner name l =>
    exact ⟨"method", [("class", owner), ("name", name)], by simp, rfl,
      twoNames?_fieldsWith .method "class" "name" (by decide) owner name l⟩
  | field owner name l =>
    exact ⟨"field", [("class", owner), ("name", name)], by simp, rfl,
      twoNames?_fieldsWith .field "class" "name" (by decide) owner name l⟩
  | constant owner name l =>
    exact ⟨"constant", [("class", owner), ("name", name)], by simp, rfl,
      twoNames?_fieldsWith .constant "class" "name" (by decide) owner name l⟩
  | templateBlock name template l =>
    exact ⟨"template_block", [("name", name), ("template", template)], by simp, rfl,
      twoNames?_fieldsWith .templateBlock "name" "template" (by decide) name template l⟩
  | templateFile name l =>
    exact ⟨"template_file", [("name", name)], by simp, rfl,
      oneName?_fieldsWith .templateFile "name" (by decide) name l⟩
  | translationEntry domain key l =>
    exact ⟨"translation_entry", [("domain", domain), ("key", key)], by simp, rfl,
      twoNames?_fieldsWith .translationEntry "domain" "key" (by decide) domain key l⟩
  | translationDomain domain l =>
    exact ⟨"translation_domain", [("domain", domain)], by simp, rfl,
      oneName?_fieldsWith .translationDomain "domain" (by decide) domain l⟩
  | parameter key l =>
    exact ⟨"parameter", [("key", key)], by simp, rfl,
      oneName?_fieldsWith .parameter "key" (by decide) key l⟩

/-- **Declarations read back** wherever three more levels of nesting can be held: the record, its
location and the range in it. -/
theorem readsBack {level : Nat} (h : level + 3 < heldLevels) :
    ReadsBack toJson (ofJson? level) where
  plain := by
    intro d
    obtain ⟨tag, names, -, hwritten, -⟩ := d.exists_tag
    rw [hwritten]
    refine .obj (List.forall_mem_cons.mpr ⟨.str tag, ?_⟩)
    exact forall_mem_fieldsWith (fun n _ => .str n.2) (Location.readsBack.plain _)
  ne_null := by
    intro d
    obtain ⟨tag, names, -, hwritten, -⟩ := d.exists_tag
    rw [hwritten]
    nofun
  back := by
    intro d
    obtain ⟨tag, names, hnames, hwritten, hback⟩ := d.exists_tag
    have hheld : d.toJson.holdable level = true := by
      rw [hwritten]
      refine holdable_obj (by omega) (List.forall_mem_cons.mpr ⟨holdable_str _ tag, ?_⟩)
      exact forall_mem_fieldsWith (fun n _ => holdable_str _ n.2)
        (d.location.holdable_toJson (by omega))
    have htagged : d.toJson.tagged? = some (tag, .obj (fieldsWith names d.location)) := by
      rw [hwritten]
      exact tagged?_obj (forall_mem_fieldsWith hnames (by simp))
    -- held, told by its tag, and read by the reader of that tag
    rw [ofJson?, if_pos hheld, htagged, Option.bind_some]
    exact hback

end Declaration

end Signpost
