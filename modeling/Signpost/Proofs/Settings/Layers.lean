/-
`Proofs/Settings/Layers.lean` -- settings laid over settings.

Settings are read off layers, the usual settings below, those of the file over them. What is seen of
two layers is told name by name: under a name of the upper one its value, laid over what the lower
one has there, and under any other name what the lower one has (`findIn_entriesOver`). That is all
that is used of the merge, so any recursive one will do (`Toml.Merge`). A record has a slot for each
of its names, and each name finds its own slot again, so what is read of a record laid over another
is settled slot by slot (`Merge.openRecord?_of_shows`). A full slot hides what lies below it, be it
an empty list, an empty text or a zero. The only slot that may be empty is that of the root, and
below that one the usual settings have nothing to show.

`Settings.comes_back` puts this on top of a printer and a reader that are inverse to each other, and
`Settings.load_print` is the case of the library's own printer, reader and merge.
-/
import Signpost.Settings.Layers
import Signpost.Proofs.Collection
import Signpost.Proofs.Json.Record
import Signpost.Proofs.Toml.RoundTrip

set_option autoImplicit false

namespace Signpost

namespace Toml

/-! ## What lies on top -/

/-- Nothing stands under a key that is not there. -/
theorem findIn_eq_none_of_notMem {key : String} {es : List (String × Toml)}
    (h : key ∉ es.map Prod.fst) : Table.findIn key es = none := by
  rw [Option.eq_none_iff_forall_ne_some]
  intro v hv
  exact h (List.mem_map_of_mem (f := Prod.fst) (Table.mem_of_findIn hv))

theorem laidOver_none (v : Toml) : v.laidOver none = v := by
  cases v <;> rw [laidOver] <;> simp

/-- **Tables are laid over each other entry by entry.** -/
theorem findIn_entriesOver {es : List (String × Toml)} (hnodup : (es.map Prod.fst).Nodup)
    (older : List (String × Toml)) (key : String) :
    Table.findIn key (entriesOver es older)
      = (Table.findIn key es).merge (fun v w => v.laidOver (some w)) (Table.findIn key older) := by
  induction es generalizing older with
  | nil =>
    rw [entriesOver, Table.findIn, Option.merge_none_left]
  | cons e es ih =>
    obtain ⟨k, v⟩ := e
    obtain ⟨hk, hes⟩ := List.nodup_cons.mp hnodup
    rw [entriesOver, ih hes, Table.findIn_updateIn, Table.findIn]
    by_cases hkey : k = key
    · subst hkey
      rw [findIn_eq_none_of_notMem hk, if_pos rfl, if_pos rfl, Option.merge_none_left]
      cases Table.findIn k older with
      | none => rw [laidOver_none, Option.merge_none_right]
      | some w => rw [Option.merge_some_some]
    · rw [if_neg hkey, if_neg hkey]

/-- No key comes twice by laying entries over others. -/
theorem nodup_entriesOver (es : List (String × Toml)) {older : List (String × Toml)}
    (holder : (older.map Prod.fst).Nodup) : ((entriesOver es older).map Prod.fst).Nodup := by
  induction es generalizing older with
  | nil => rwa [entriesOver]
  | cons e es ih =>
    obtain ⟨k, v⟩ := e
    rw [entriesOver]
    refine ih ?_
    rw [Table.map_fst_updateIn]
    split
    · exact holder
    · next hk =>
      rw [← List.concat_eq_append]
      exact holder.concat hk

/-! ## Ways of laying values over each other

What is proved of settings among their layers needs no more of the merge than this. -/

/-- The value is a table without a key twice, and this stands under each of its keys. -/
def Shows (v : Toml) (find : String → Option Toml) : Prop :=
  ∃ es, v = .table es ∧ (es.map Prod.fst).Nodup ∧ ∀ key, Table.findIn key es = find key

/-- A table shows what stands under its keys. -/
theorem shows_table {es : List (String × Toml)} (hnodup : (es.map Prod.fst).Nodup) :
    Shows (.table es) (Table.findIn · es) := ⟨es, rfl, hnodup, fun _ => rfl⟩

/-- Whether a value takes the place of what it is laid over. Tables do not, and neither do dates,
which count as tables in which nothing is set. -/
def replaces : Toml → Bool
  | .bool _ | .int _ | .float _ | .text _ | .array _ => true
  | .date _ | .table _ => false

/-- A recursive merge: tables are laid over each other key by key, and lists and plain values take
the place of what was there. -/
structure Merge where
  onTop : Toml → Toml → Toml
  replace : ∀ {v}, v.replaces = true → ∀ older, onTop v older = v
  recurse : ∀ {v older find findOlder}, Shows v find → Shows older findOlder →
    Shows (onTop v older) fun key => (find key).merge onTop (findOlder key)

namespace Merge

variable (m : Merge) (older : Toml)

@[simp] theorem onTop_bool (b : Bool) : m.onTop (.bool b) older = .bool b := m.replace rfl older

@[simp] theorem onTop_int (n : Int) : m.onTop (.int n) older = .int n := m.replace rfl older

@[simp] theorem onTop_text (s : String) : m.onTop (.text s) older = .text s := m.replace rfl older

@[simp] theorem onTop_array (items : List Toml) : m.onTop (.array items) older = .array items :=
  m.replace rfl older

end Merge

/-- The merge by which the layers of the settings are put together. -/
def Merge.laidOver : Merge where
  onTop := fun v older => v.laidOver (some older)
  replace := by
    intro v hv older
    cases v with
    | date | table => cases hv
    | _ => simp [Toml.laidOver]
  recurse := by
    rintro _ _ find findOlder ⟨es, rfl, hes, hfind⟩ ⟨older, rfl, holder, hfindOlder⟩
    refine ⟨entriesOver es older, by rw [Toml.laidOver], nodup_entriesOver es holder, fun key => ?_⟩
    rw [findIn_entriesOver hes, hfind, hfindOlder]

/-! ## Records among the layers -/

/-- The entries of a record, some of which may be left out. -/
def entriesOf (names : List String) (slots : List (Option Toml)) : List (String × Toml) :=
  (names.zip slots).flatMap fun s => (s.2.map (s.1, ·)).toList

theorem entriesOf_cons (name : String) (names : List String) (slot : Option Toml)
    (slots : List (Option Toml)) : entriesOf (name :: names) (slot :: slots)
      = (slot.map (name, ·)).toList ++ entriesOf names slots := rfl

/-- The names that are written are some of the names, in their order. -/
theorem map_fst_entriesOf_sublist (names : List String) (slots : List (Option Toml)) :
    ((entriesOf names slots).map Prod.fst).Sublist names := by
  induction names generalizing slots with
  | nil => exact List.Sublist.refl []
  | cons name names ih =>
    cases slots with
    | nil => exact List.nil_sublist _
    | cons slot slots =>
      rw [entriesOf_cons, List.map_append]
      cases slot with
      | none => exact (ih slots).cons name
      | some v => exact (ih slots).cons_cons name

/-- No name is written twice. -/
theorem nodup_entriesOf {names : List String} (hnodup : names.Nodup) (slots : List (Option Toml)) :
    ((entriesOf names slots).map Prod.fst).Nodup :=
  hnodup.sublist (map_fst_entriesOf_sublist names slots)

/-- Each name finds its slot again. -/
theorem map_findIn_entriesOf {names : List String} (hnodup : names.Nodup)
    {slots : List (Option Toml)} (hlength : names.length = slots.length) :
    names.map (Table.findIn · (entriesOf names slots)) = slots := by
  induction names generalizing slots with
  | nil => exact (List.length_eq_zero_iff.mp hlength.symm).symm
  | cons name names ih =>
    obtain ⟨hname, hnames⟩ := List.nodup_cons.mp hnodup
    obtain ⟨slot, slots, rfl⟩ := List.exists_cons_of_length_eq_add_one hlength.symm
    have hnone : Table.findIn name (entriesOf names slots) = none :=
      findIn_eq_none_of_notMem fun hmem => hname ((map_fst_entriesOf_sublist _ _).mem hmem)
    rw [entriesOf_cons, List.map_cons]
    cases slot with
    | none =>
      rw [Option.map_none, Option.toList_none, List.nil_append, hnone,
        ih hnames (Nat.succ.inj hlength)]
    | some v =>
      have hothers : ∀ n ∈ names, Table.findIn n ((name, v) :: entriesOf names slots)
          = Table.findIn n (entriesOf names slots) := by
        intro n hn
        rw [Table.findIn, if_neg]
        rintro rfl
        exact hname hn
      rw [Option.map_some, Option.toList_some, List.singleton_append, List.map_congr_left hothers,
        ih hnames (Nat.succ.inj hlength), Table.findIn, if_pos rfl]

/-- Entries are turned into fields one by one. -/
theorem entriesToJson_eq_map (es : List (String × Toml)) :
    entriesToJson es = es.map fun e => (e.1, e.2.toJson) := by
  induction es with
  | nil => rfl
  | cons e rest ih => rw [entriesToJson, ih, List.map_cons]

/-- So are the items of an array. -/
theorem itemsToJson_eq_map (items : List Toml) : itemsToJson items = items.map toJson := by
  induction items with
  | nil => rfl
  | cons v rest ih => rw [itemsToJson, ih, List.map_cons]

/-- A field of a written table is what stands under its name. -/
theorem field?_entriesToJson {es : List (String × Toml)} (hnodup : (es.map Prod.fst).Nodup)
    (name : String) :
    Json.field? (entriesToJson es) name = some ((Table.findIn name es).map toJson) := by
  rw [entriesToJson_eq_map, Json.field?]
  induction es with
  | nil => rfl
  | cons e es ih =>
    obtain ⟨hkey, hes⟩ := List.nodup_cons.mp hnodup
    by_cases hname : e.1 = name
    · have hothers : (es.map fun e => (e.1, e.2.toJson)).filter (·.1 == name) = [] := by
        rw [List.filter_eq_nil_iff]
        intro f hf heq
        obtain ⟨e', he', rfl⟩ := List.mem_map.mp hf
        exact hkey (hname ▸ beq_iff_eq.mp heq ▸ List.mem_map_of_mem he')
      rw [List.map_cons, List.filter_cons_of_pos (by simpa using hname), hothers, Table.findIn,
        if_pos hname, Option.map_some]
    · rw [List.map_cons, List.filter_cons_of_neg (by simpa using hname), Table.findIn,
        if_neg hname, ih hes]

/-- A table opens as a record: each name finds what the table shows under it. -/
theorem openRecord?_of_shows {v : Toml} {find : String → Option Toml} (h : Shows v find)
    (names : List String) :
    Json.openRecord? names v.toJson = some (names.map fun name => (find name).map toJson) := by
  obtain ⟨es, rfl, hnodup, hfind⟩ := h
  have hfield : ∀ name, Json.field? (entriesToJson es) name = some ((find name).map toJson) := by
    intro name
    rw [field?_entriesToJson hnodup, hfind]
  have hall := Json.mapM_map_of_forall (f := id) fun name (_ : name ∈ names) => hfield name
  rw [List.map_id] at hall
  rw [toJson]
  exact hall

namespace Merge

variable (m : Merge) {names : List String} (hnodup : names.Nodup) {slots older : List (Option Toml)}

include hnodup

/-- A record laid over another shows under each name what the two hold there, laid over each other.
-/
theorem shows_over (slots older : List (Option Toml)) :
    Shows (m.onTop (.table (entriesOf names slots)) (.table (entriesOf names older))) fun key =>
      (Table.findIn key (entriesOf names slots)).merge m.onTop
        (Table.findIn key (entriesOf names older)) :=
  m.recurse (shows_table (nodup_entriesOf hnodup slots)) (shows_table (nodup_entriesOf hnodup older))

/-- **The slots of a record laid over another are those that lie on top.** A name is looked up in the
two records apart, and there it finds its slots. -/
theorem openRecord?_of_shows {v : Toml} (hslots : names.length = slots.length)
    (holder : names.length = older.length)
    (h : Shows v fun key => (Table.findIn key (entriesOf names slots)).merge m.onTop
      (Table.findIn key (entriesOf names older))) :
    Json.openRecord? names v.toJson
      = some ((List.zipWith (Option.merge m.onTop) slots older).map (Option.map toJson)) := by
  have hzip : (names.map fun name => (Table.findIn name (entriesOf names slots)).merge m.onTop
      (Table.findIn name (entriesOf names older))) = List.zipWith (Option.merge m.onTop) slots older :=
    calc
      _ = List.zipWith (Option.merge m.onTop) (names.map (Table.findIn · (entriesOf names slots)))
          (names.map (Table.findIn · (entriesOf names older))) := by
        rw [List.zipWith_map, List.zipWith_self]
      _ = _ := by rw [map_findIn_entriesOf hnodup hslots, map_findIn_entriesOf hnodup holder]
  rw [Toml.openRecord?_of_shows h, ← hzip, List.map_map]
  rfl

end Merge

end Toml

/-! ## The sections of the settings -/

section Sections

open Toml

variable (m : Merge)

/-- Everything in this section is written, so it has its own values whatever it is laid over. -/
theorem SignatureSettings.fit?_over (s older : SignatureSettings) :
    SignatureSettings.fit? Json.openRecord? (m.onTop s.toToml older.toToml).toJson = some s := by
  have hnodup : ["delimiter", "expected_argument_count"].Nodup := by simp
  have hfields : Json.openRecord? ["delimiter", "expected_argument_count"]
        (m.onTop s.toToml older.toToml).toJson
      = some [some (.str s.delimiter.toString), some (.nat s.expectedArgumentCount.toNat)] := by
    refine (m.openRecord?_of_shows hnodup rfl rfl (m.shows_over hnodup
      [some (.text s.delimiter.toString), some (.int s.expectedArgumentCount.toNat)]
      [some (.text older.delimiter.toString), some (.int older.expectedArgumentCount.toNat)])).trans ?_
    simp [toJson]
  rw [SignatureSettings.fit?, hfields]
  simp only [Json.readsBack_char.orElse, Json.readsBack_uint64.orElse]
  rfl

/-- So it is with the bounds on chains. -/
theorem ContainerSettings.fit?_over (s older : ContainerSettings) :
    ContainerSettings.fit? Json.openRecord? (m.onTop s.toToml older.toToml).toJson = some s := by
  have hnodup : ["max_alias_depth", "max_parent_depth"].Nodup := by simp
  have hfields : Json.openRecord? ["max_alias_depth", "max_parent_depth"]
        (m.onTop s.toToml older.toToml).toJson
      = some [some (.nat s.maxAliasDepth.toNat), some (.nat s.maxParentDepth.toNat)] := by
    refine (m.openRecord?_of_shows hnodup rfl rfl (m.shows_over hnodup
      [some (.int s.maxAliasDepth.toNat), some (.int s.maxParentDepth.toNat)]
      [some (.int older.maxAliasDepth.toNat), some (.int older.maxParentDepth.toNat)])).trans ?_
    simp [toJson]
  rw [ContainerSettings.fit?, hfields]
  simp only [Json.readsBack_uint64.orElse]
  rfl

/-- The texts of a section on templates, in order. -/
def TemplateSettings.slots (s : TemplateSettings) : List (Option Toml) :=
  [some (.text s.transFunction), some (.text s.defaultDomain), some (.text s.defaultDomainTag),
    some (.array (s.routeFunctions.map .text)), some (.array (s.fileTags.map .text)),
    some (.array (s.fileFunctions.map .text)), some (.text s.blockFunction)]

/-- So it is with the names that templates use. -/
theorem TemplateSettings.fit?_over (s older : TemplateSettings) :
    TemplateSettings.fit? Json.openRecord? (m.onTop s.toToml older.toToml).toJson = some s := by
  have hnodup : ["trans_function", "default_domain", "default_domain_tag", "route_functions",
      "file_tags", "file_functions", "block_function"].Nodup := by simp
  have hfields : Json.openRecord? ["trans_function", "default_domain", "default_domain_tag",
        "route_functions", "file_tags", "file_functions", "block_function"]
        (m.onTop s.toToml older.toToml).toJson
      = some [some (.str s.transFunction), some (.str s.defaultDomain),
        some (.str s.defaultDomainTag), some (.arr (s.routeFunctions.map .str)),
        some (.arr (s.fileTags.map .str)), some (.arr (s.fileFunctions.map .str)),
        some (.str s.blockFunction)] := by
    refine (m.openRecord?_of_shows hnodup rfl rfl
      (m.shows_over hnodup s.slots older.slots)).trans ?_
    simp [TemplateSettings.slots, toJson, itemsToJson_eq_map, Function.comp_def]
  rw [TemplateSettings.fit?, hfields]
  simp only [Json.readsBack_text.orElse, Json.readsBack_text.list.orElse]
  rfl

end Sections

/-! ## Settings -/

namespace Settings

open Toml

/-- The names of the settings, in order. -/
def names : List String := ["version", "debug", "enabled", "index_path", "workspace_root",
  "signatures", "templates", "container"]

/-- What is written of the settings, in order. -/
def slots (s : Settings) : List (Option Toml) :=
  [some (.int s.version.toNat), some (.bool s.debug), some (.bool s.enabled),
    some (.text s.indexPath.text), s.workspaceRoot.map fun root => .text root.text,
    some s.signatures.toToml, some s.templates.toToml, some s.container.toToml]

/-- Settings are written as the record of their slots. -/
theorem toToml_eq (s : Settings) : s.toToml = .table (entriesOf names s.slots) := by
  obtain ⟨_, _, _, _, root, _, _, _⟩ := s
  cases root <;> rfl

/-- A path is read back from its text. -/
theorem readsBack_path : Json.ReadsBack (fun p : Path => .str p.text) path? where
  plain := fun p => .str p.text
  ne_null := nofun
  back := fun _ => rfl

/-- **Settings laid over others are all that is seen of the two**, unless only the lower ones name a
root. A layer on top in which nothing is set makes no difference. -/
theorem ofLayers?_over (m : Merge) (s : Settings) {older : Settings}
    (holder : older.workspaceRoot = none) :
    ofLayers? (m.onTop (.table []) (m.onTop s.toToml older.toToml)) = some s := by
  have hnodup : names.Nodup := by simp [names]
  have hempty : Shows (.table []) (Table.findIn · []) := shows_table List.nodup_nil
  have hshows := m.recurse hempty (m.shows_over hnodup s.slots older.slots)
  simp only [Table.findIn, Option.merge_none_left] at hshows
  have hfields : Json.openRecord? names (m.onTop (.table []) (m.onTop s.toToml older.toToml)).toJson
      = some [some (.nat s.version.toNat), some (.bool s.debug), some (.bool s.enabled),
        some (.str s.indexPath.text), s.workspaceRoot.map fun root => .str root.text,
        some (m.onTop s.signatures.toToml older.signatures.toToml).toJson,
        some (m.onTop s.templates.toToml older.templates.toToml).toJson,
        some (m.onTop s.container.toToml older.container.toToml).toJson] := by
    rw [toToml_eq, toToml_eq]
    refine (m.openRecord?_of_shows hnodup rfl rfl hshows).trans ?_
    rw [slots, slots, holder]
    cases s.workspaceRoot <;> simp [Toml.toJson]
  have hroot : Json.optional path? (s.workspaceRoot.map fun root => .str root.text)
      = some s.workspaceRoot := readsBack_path.optional s.workspaceRoot
  rw [ofLayers?, fit?]
  rw [names] at hfields
  rw [hfields]
  simp only [Json.readsBack_uint32.orElse, Json.readsBack_bool.orElse, readsBack_path.orElse, hroot]
  simp only [Json.orElse, SignatureSettings.fit?_over, TemplateSettings.fit?_over,
    ContainerSettings.fit?_over]
  rfl

/-! ## The settings file -/

/-- The whole numbers of the settings are among those that a settings file can hold. -/
structure Fits (s : Settings) : Prop where
  count : s.signatures.expectedArgumentCount.toNat < 0x8000000000000000
  aliases : s.container.maxAliasDepth.toNat < 0x8000000000000000
  parents : s.container.maxParentDepth.toNat < 0x8000000000000000

/-- The settings that stand before the sections. -/
def plainEntries (s : Settings) : List (String × Toml) :=
  [("version", .int s.version.toNat), ("debug", .bool s.debug), ("enabled", .bool s.enabled),
    ("index_path", .text s.indexPath.text)]
    ++ (s.workspaceRoot.map fun root => ("workspace_root", Toml.text root.text)).toList

/-- The sections. -/
def sectionEntries (s : Settings) : List (String × List (String × Toml)) :=
  [("signatures",
      [("delimiter", .text s.signatures.delimiter.toString),
        ("expected_argument_count", .int s.signatures.expectedArgumentCount.toNat)]),
    ("templates",
      [("trans_function", .text s.templates.transFunction),
        ("default_domain", .text s.templates.defaultDomain),
        ("default_domain_tag", .text s.templates.defaultDomainTag),
        ("route_functions", .array (s.templates.routeFunctions.map .text)),
        ("file_tags", .array (s.templates.fileTags.map .text)),
        ("file_functions", .array (s.templates.fileFunctions.map .text)),
        ("block_function", .text s.templates.blockFunction)]),
    ("container",
      [("max_alias_depth", .int s.container.maxAliasDepth.toNat),
        ("max_parent_depth", .int s.container.maxParentDepth.toNat)])]

/-- The written settings are plain entries first and then the sections, as a document has them. -/
theorem entries_eq (s : Settings) : s.entries = document s.plainEntries s.sectionEntries := by
  obtain ⟨_, _, _, _, root, _, _, _⟩ := s
  cases root <;> rfl

/-- A list of texts is a value that a line can hold. -/
theorem simple_texts (names : List String) : Simple (.array (names.map .text)) := by
  refine .array fun v hv => ?_
  obtain ⟨name, -, rfl⟩ := List.mem_map.mp hv
  exact .text name

/-- Each of the three sections can be printed as one: its keys are bare words, and its numbers fit.
-/
theorem Fits.section_signatures {s : Settings} (h : s.Fits) : Section ("signatures",
    [("delimiter", .text s.signatures.delimiter.toString),
      ("expected_argument_count", .int s.signatures.expectedArgumentCount.toNat)]) := by
  refine .of (by decide) ?_ (by simp)
  simp only [List.forall_mem_cons, List.not_mem_nil, false_implies, implies_true, and_true]
  exact ⟨.of (by decide) (.scalar (.text _)), .of (by decide) (.scalar (.nat h.count))⟩

theorem Fits.section_container {s : Settings} (h : s.Fits) : Section ("container",
    [("max_alias_depth", .int s.container.maxAliasDepth.toNat),
      ("max_parent_depth", .int s.container.maxParentDepth.toNat)]) := by
  refine .of (by decide) ?_ (by simp)
  simp only [List.forall_mem_cons, List.not_mem_nil, false_implies, implies_true, and_true]
  exact ⟨.of (by decide) (.scalar (.nat h.aliases)), .of (by decide) (.scalar (.nat h.parents))⟩

theorem section_templates (s : TemplateSettings) : Section ("templates",
    [("trans_function", .text s.transFunction), ("default_domain", .text s.defaultDomain),
      ("default_domain_tag", .text s.defaultDomainTag),
      ("route_functions", .array (s.routeFunctions.map .text)),
      ("file_tags", .array (s.fileTags.map .text)),
      ("file_functions", .array (s.fileFunctions.map .text)),
      ("block_function", .text s.blockFunction)]) := by
  refine .of (by decide) ?_ (by simp)
  simp only [List.forall_mem_cons, List.not_mem_nil, false_implies, implies_true, and_true]
  exact ⟨.of (by decide) (.scalar (.text _)), .of (by decide) (.scalar (.text _)),
    .of (by decide) (.scalar (.text _)), .of (by decide) (simple_texts _),
    .of (by decide) (simple_texts _), .of (by decide) (simple_texts _),
    .of (by decide) (.scalar (.text _))⟩

/-- Settings whose numbers fit are written as a document. -/
theorem Fits.written {s : Settings} (h : s.Fits) : Written s.entries := by
  have hversion : s.version.toNat < 0x8000000000000000 := s.version.toNat_lt_size.trans (by decide)
  have hplain : ∀ e ∈ s.plainEntries, Line e := by
    intro e he
    simp only [plainEntries, List.mem_append, List.mem_cons, List.not_mem_nil, or_false,
      Option.mem_toList, Option.map_eq_some_iff] at he
    rcases he with (rfl | rfl | rfl | rfl) | ⟨root, -, rfl⟩
    · exact .of (by decide) (.scalar (.nat hversion))
    · exact .of (by decide) (.scalar (.bool s.debug))
    · exact .of (by decide) (.scalar (.bool s.enabled))
    · exact .of (by decide) (.scalar (.text s.indexPath.text))
    · exact .of (by decide) (.scalar (.text root.text))
  have hsections : ∀ t ∈ s.sectionEntries, Section t := by
    intro t ht
    simp only [sectionEntries, List.mem_cons, List.not_mem_nil, or_false] at ht
    rcases ht with rfl | rfl | rfl
    · exact h.section_signatures
    · exact section_templates s.templates
    · exact h.section_container
  have hnodup : (s.plainEntries.map Prod.fst ++ s.sectionEntries.map Prod.fst).Nodup := by
    cases hroot : s.workspaceRoot <;> simp [plainEntries, sectionEntries, hroot]
  rw [entries_eq]
  exact .document hplain hsections hnodup

/-- **Settings that were written come back**, whatever their text looks like and however the layers
are merged. -/
theorem comes_back {s : Settings} (h : s.Fits) (c : Toml.Codec) (m : Merge) :
    ((c.read? (c.print s.entries)).bind fun file =>
      ofLayers? (m.onTop (.table []) (m.onTop file default.toToml))) = some s := by
  rw [c.back h.written, Option.bind_some]
  exact ofLayers?_over m s rfl

end Settings

/-- Variables without the mark set nothing. -/
theorem Environment.layer_eq_table_nil {env : Environment}
    (h : ∀ v ∈ env, Environment.afterMark? v.1 = none) : env.layer = .table [] := by
  have hnone : ∀ v ∈ env, Environment.layer? v.1 v.2 = none := by
    intro v hv
    have hkeys : Environment.keys? v.1 = none := by
      rw [Environment.keys?, h v hv]
      rfl
    rw [Environment.layer?, hkeys, Option.map_none]
  exact congrArg (Toml.layered (.table [])) (List.filterMap_eq_nil_iff.mpr hnone)

/-- **Saved settings load back unchanged.** -/
theorem Settings.load_print {s : Settings} (h : s.Fits) {env : Environment}
    (henv : ∀ v ∈ env, Environment.afterMark? v.1 = none) :
    Settings.load (some s.print) env = s.checked := by
  have hlayers : (Settings.layers? (some s.print) env).bind Settings.ofLayers? = some s := by
    rw [Settings.layers?, Environment.layer_eq_table_nil henv, Option.bind_map]
    exact comes_back h .lines .laidOver
  rw [Settings.load, hlayers]

end Signpost
