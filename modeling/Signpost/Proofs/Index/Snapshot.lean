/-
`Proofs/Index/Snapshot.lean` -- snapshots survive being written.

Every record of the index reads back, slot by slot, and so does the snapshot that lists them. What
the slots keep apart are the things that could be confused once a field may be left out: a class
without a constructor and one whose constructor has no arguments, an element without a literal and
one with an empty literal, a file and a place in it.

Between a snapshot and what is read of it stands a text, of which nothing is used but that printer
and reader are inverse to each other. The version is looked at last. A snapshot of another version
is therefore read as a whole before it is refused, and the refusal names its version.
-/
import Signpost.Index.Snapshot
import Signpost.Proofs.Declaration.Json

set_option autoImplicit false

namespace Signpost

open Json

/-! ## Records -/

/-- The definition of a service is read back from its record. -/
theorem ServiceDefinition.readsBack : ReadsBack ServiceDefinition.toJson ServiceDefinition.ofJson? :=
  readsBack_of_slots
    [.always "id" id readsBack_text, .whenSome "class" className readsBack_text,
      .whenSome "alias" aliasOf readsBack_text, .whenSome "location" location Location.readsBack]
    (by decide) (by rintro ⟨id, _ | c, _ | a, _ | l⟩ <;> rfl)
    (by
      intro d v hv
      simp only [List.map_cons, List.map_nil, Slot.always, Slot.whenSome] at hv
      simp [ofJson?, hv, readsBack_text.required, readsBack_text.optional,
        Location.readsBack.optional])

/-- The definition of a parameter is read back, whatever text is its value. -/
theorem ParameterDefinition.readsBack :
    ReadsBack ParameterDefinition.toJson ParameterDefinition.ofJson? :=
  readsBack_of_slots
    [.always "key" key readsBack_text, .whenSome "value" value readsBack_text,
      .whenSome "location" location Location.readsBack]
    (by decide) (by rintro ⟨key, _ | v, _ | l⟩ <;> rfl)
    (by
      intro d v hv
      simp only [List.map_cons, List.map_nil, Slot.always, Slot.whenSome] at hv
      simp [ofJson?, hv, readsBack_text.required, readsBack_text.optional,
        Location.readsBack.optional])

/-- An argument of a constructor is read back, with or without a type and a default. -/
theorem ArgumentInfo.readsBack : ReadsBack ArgumentInfo.toJson ArgumentInfo.ofJson? :=
  readsBack_of_slots
    [.always "name" name readsBack_text, .whenSome "type_hint" typeHint readsBack_text,
      .whenSome "default" default readsBack_text]
    (by decide) (by rintro ⟨name, _ | h, _ | d⟩ <;> rfl)
    (by
      intro a v hv
      simp only [List.map_cons, List.map_nil, Slot.always, Slot.whenSome] at hv
      simp [ofJson?, hv, readsBack_text.required, readsBack_text.optional])

/-- A class is read back with its parent and its constructor, also with one of no arguments. -/
theorem ClassInfo.readsBack : ReadsBack ClassInfo.toJson ClassInfo.ofJson? :=
  readsBack_of_slots
    [.always "fqn" name readsBack_text, .always "location" location Location.readsBack,
      .whenSome "parent" parent readsBack_text,
      .whenSome "constructor" constructor ArgumentInfo.readsBack.list]
    (by decide) (by rintro ⟨name, l, _ | p, _ | c⟩ <;> rfl)
    (by
      intro c v hv
      simp only [List.map_cons, List.map_nil, Slot.always, Slot.whenSome] at hv
      simp [ofJson?, hv, readsBack_text.required, readsBack_text.optional,
        Location.readsBack.required, ArgumentInfo.readsBack.list.optional])

/-- A block is read back from its record. -/
theorem BlockInfo.readsBack : ReadsBack BlockInfo.toJson BlockInfo.ofJson? :=
  readsBack_of_slots
    [.always "name" name readsBack_text, .always "location" location Location.readsBack]
    (by decide) (fun _ => rfl)
    (by
      intro b v hv
      simp only [List.map_cons, List.map_nil, Slot.always] at hv
      simp [ofJson?, hv, readsBack_text.required, Location.readsBack.required])

/-- A template is read back with all its blocks. -/
theorem Template.readsBack : ReadsBack Template.toJson Template.ofJson? :=
  readsBack_of_slots
    [.always "name" name readsBack_text, .always "location" location Location.readsBack,
      .always "blocks" blocks BlockInfo.readsBack.list]
    (by decide) (fun _ => rfl)
    (by
      intro t v hv
      simp only [List.map_cons, List.map_nil, Slot.always] at hv
      simp [ofJson?, hv, readsBack_text.required, Location.readsBack.required,
        BlockInfo.readsBack.list.orElse])

/-- A route is read back with or without a controller. -/
theorem Route.readsBack : ReadsBack Route.toJson Route.ofJson? :=
  readsBack_of_slots
    [.always "name" name readsBack_text, .whenSome "controller" controller readsBack_text,
      .whenSome "path" path readsBack_text]
    (by decide) (by rintro ⟨name, _ | c, _ | p⟩ <;> rfl)
    (by
      intro r v hv
      simp only [List.map_cons, List.map_nil, Slot.always, Slot.whenSome] at hv
      simp [ofJson?, hv, readsBack_text.required, readsBack_text.optional])

/-- A declaration stands in the record of an element, which stands in a list of the snapshot. -/
theorem Declaration.readsBack_inElement : ReadsBack Declaration.toJson (Declaration.ofJson? 3) :=
  readsBack (by decide)

/-- A declaration stands in a list of the snapshot. -/
theorem Declaration.readsBack_inList : ReadsBack Declaration.toJson (Declaration.ofJson? 2) :=
  readsBack (by decide)

/-- An element is read back with its literal, if it has one. -/
theorem ElementEntry.readsBack : ReadsBack ElementEntry.toJson ElementEntry.ofJson? :=
  readsBack_of_slots
    [.always "declaration" declaration Declaration.readsBack_inElement,
      .whenSome "literal" literal readsBack_text]
    (by decide) (by rintro ⟨d, _ | l⟩ <;> rfl)
    (by
      intro e v hv
      simp only [List.map_cons, List.map_nil, Slot.always, Slot.whenSome] at hv
      simp [ofJson?, hv, Declaration.readsBack_inElement.required, readsBack_text.optional])

/-! ## Snapshots -/

namespace Snapshot

/-- A section that is written is read back entry by entry. -/
theorem listOf_written {α : Type} {write : α → Json} {read? : Json → Option α}
    (h : ReadsBack write read?) (xs : List α) :
    listOf read? (some (.arr (xs.map write))) = some xs := h.list.orElse [] xs

/-- **A snapshot is read back from its record**, section by section. -/
theorem readsBack : ReadsBack toJson ofJson? :=
  readsBack_of_slots
    [.always "version" version readsBack_uint32,
      .always "elements" elements ElementEntry.readsBack.list,
      .always "services" services ServiceDefinition.readsBack.list,
      .always "parameters" parameters ParameterDefinition.readsBack.list,
      .always "classes" classes ClassInfo.readsBack.list,
      .always "templates" templates Template.readsBack.list,
      .always "routes" routes Route.readsBack.list,
      .always "translations" translations Declaration.readsBack_inList.list,
      .always "domain_files" domainFiles Declaration.readsBack_inList.list]
    (by decide) (fun _ => rfl)
    (by
      intro s v hv
      simp only [List.map_cons, List.map_nil, Slot.always] at hv
      simp [ofJson?, hv, readsBack_uint32.orElse, listOf_written ElementEntry.readsBack,
        listOf_written ServiceDefinition.readsBack, listOf_written ParameterDefinition.readsBack,
        listOf_written ClassInfo.readsBack, listOf_written Template.readsBack,
        listOf_written Route.readsBack, listOf_written Declaration.readsBack_inList])

/-- What reading finds of a snapshot that was written. -/
structure ComesBack (s : Snapshot) (found : Except Failure Snapshot) : Prop where
  same_iff : found = .ok s ↔ s.version = 1
  refused : s.version ≠ 1 → found = .error (.unsupportedVersion s.version 1)
  /-- The index answers every question alike. -/
  index : s.version = 1 → found.map toIndex = .ok s.toIndex

/-- Whatever the text between looks like, what becomes of a snapshot is up to its version alone. -/
theorem comesBack (origin : Path) (s : Snapshot) (c : Json.Codec) :
    s.ComesBack (accept origin (c.read? (c.print s.toJson))) := by
  have hfound : accept origin (c.read? (c.print s.toJson)) = if s.version = 1 then .ok s
      else .error (.unsupportedVersion s.version 1) := by
    rw [accept, readsBack.through c s]
    rfl
  by_cases hversion : s.version = 1
  · constructor <;> simp [hfound, hversion, Except.map]
  · constructor <;> simp [hfound, hversion]

/-- **Snapshots read back under their version.** Written and read with any printer and reader that
are inverse to each other, a snapshot comes back exactly when its version is 1, and any other version
is refused by name. In particular this holds of the text of a snapshot on one line and of the one
that is saved. The index of what was read is the index of what was written, so it answers every
question alike. -/
theorem written_snapshot_reads_back (origin : Path) (s : Snapshot) :
    (∀ c : Json.Codec, s.ComesBack (accept origin (c.read? (c.print s.toJson))))
      ∧ ∀ text, text = s.toJson.compact ∨ text = s.write → s.ComesBack (read origin text) := by
  refine ⟨s.comesBack origin, ?_⟩
  rintro text (rfl | rfl)
  · exact s.comesBack origin .compact
  · exact s.comesBack origin .pretty

/-- A constructor without arguments and an empty literal are still there after reading, and a
snapshot of version 2 is refused. -/
theorem written_snapshot_reads_back_mailer :
    read ⟨"index.json"⟩
        (write { elements := [⟨.constant "App\\Mailer" "NAME" ⟨⟨"src/Mailer.php"⟩, none⟩, some ""⟩]
                 classes := [⟨"App\\Mailer", ⟨⟨"src/Mailer.php"⟩, none⟩, none, some []⟩] })
      = .ok { elements := [⟨.constant "App\\Mailer" "NAME" ⟨⟨"src/Mailer.php"⟩, none⟩, some ""⟩]
              classes := [⟨"App\\Mailer", ⟨⟨"src/Mailer.php"⟩, none⟩, none, some []⟩] } ∧
    read ⟨"index.json"⟩ (toJson { version := 2 }).compact = .error (.unsupportedVersion 2 1) :=
  ⟨((written_snapshot_reads_back _ _).2 _ (.inr rfl)).same_iff.mpr rfl,
    ((written_snapshot_reads_back _ { version := 2 }).2 _ (.inl rfl)).refused (by decide)⟩

end Snapshot

end Signpost
