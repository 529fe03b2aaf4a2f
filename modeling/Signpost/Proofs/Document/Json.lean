/-
`Proofs/Document/Json.lean` -- documents survive being written.

A node leaves out its parent if it has none and its children if there are none, and both are told
apart again: a missing parent is none, missing children are the empty list. So a document of any
shape reads back as a value. Only then are its links looked at, and the text is refused exactly when
they do not agree, for the reason that the check gives.

A document from the builder has never been checked. Its nodes stand in preorder, which is more than
agreement of links, so its text is always accepted.
-/
import Signpost.Document.Json
import Signpost.Project.Goto
import Signpost.Project.Overlay
import Signpost.Proofs.Declaration.Json
import Signpost.Proofs.Document.Builder

set_option autoImplicit false

namespace Signpost

open Json

theorem Node.readsBack_id : ReadsBack Node.idToJson uint32? := readsBack_uint32

theorem Node.readsBack : ReadsBack Node.toJson Node.ofJson? :=
  readsBack_of_slots
    [.always "kind" kind (readsBack_tag NodeKind.ofTag?_tag), .always "text" text readsBack_text,
      .always "span" span Span.readsBack, .whenSome "parent" parent readsBack_id,
      .unlessEmpty "children" children readsBack_id]
    (by decide) (by rintro ⟨kind, text, span, _ | p, _ | ⟨c, cs⟩⟩ <;> rfl)
    (by
      intro n v hv
      simp only [List.map_cons, List.map_nil, Slot.always, Slot.whenSome, Slot.unlessEmpty] at hv
      -- not by the whole simp set, which would restate what it means for the children to be empty
      simp only [ofJson?, hv, (readsBack_tag NodeKind.ofTag?_tag).required, readsBack_text.orElse,
        Span.readsBack.required, readsBack_id.optional, readsBack_id.orElse_nil,
        Option.bind_eq_bind, Option.bind_some, Option.pure_def])

namespace Document

theorem readsBack : ReadsBack toJson ofJson? :=
  readsBack_of_slots
    [.always "path" path Path.readsBack,
      .always "dialect" dialect (readsBack_tag Dialect.ofTag?_tag),
      .always "nodes" (·.nodes.toList) Node.readsBack.list]
    (by decide) (fun _ => rfl)
    (by
      intro d v hv
      simp only [List.map_cons, List.map_nil, Slot.always] at hv
      simp [ofJson?, hv, Path.readsBack.required, (readsBack_tag Dialect.ofTag?_tag).required,
        Node.readsBack.list.required])

/-- What reading finds of a document that was written. -/
structure ComesBack (origin : Path) (d : Document) (found : Except Failure Document) : Prop where
  same_iff : found = .ok d ↔ d.linkDefect? = none
  refused : ∀ defect, d.linkDefect? = some defect →
    found = .error (.malformed origin (.stated defect.message))

/-- Whatever the text between looks like, what becomes of a document is up to its links. -/
theorem comesBack (origin : Path) (d : Document) (c : Json.Codec) :
    d.ComesBack origin (accept origin (c.read? (c.print d.toJson))) := by
  have hrefused : ∀ defect, d.linkDefect? = some defect →
      accept origin (c.read? (c.print d.toJson))
        = .error (.malformed origin (.stated defect.message)) := by
    intro defect hdefect
    simp only [accept, readsBack.through c d, hdefect]
  refine ⟨?_, hrefused⟩
  cases hdefect : d.linkDefect? with
  | none => simp only [accept, readsBack.through c d, hdefect]
  | some defect =>
    rw [hrefused defect hdefect]
    simp

open Builder in
/-- The builder never checks its links, and they agree all the same. -/
theorem linkDefect?_build (path : Path) (dialect : Dialect) {steps : List Step}
    (hbytes : totalBytes steps < UInt32.size)
    (hnodes : (steps.flatMap Step.requests).length + 1 < UInt32.size) :
    (build path dialect steps).linkDefect? = none := by
  have hpreorder := preorder_build path dialect hbytes hnodes
  exact (linkDefect?_eq_none_iff hpreorder.size_le).mpr hpreorder.linked

open Builder in
/-- **Documents read back if their links agree.** Written and read with any printer and reader that
are inverse to each other, a document comes back exactly when the check of its links finds nothing,
and is refused with what it finds otherwise. In particular this holds of the text of a document on
one line and in lines. Whatever steps a builder took, as long as bytes and nodes can be counted, the
check finds nothing in its document, whose text is read as an equal one, on which every question
about a caret or a token has the answer that it has on the document in memory. -/
theorem written_document_reads_back (origin : Path) :
    (∀ (d : Document) (c : Json.Codec),
      d.ComesBack origin (accept origin (c.read? (c.print d.toJson)))) ∧
    (∀ (d : Document) (text : String), text = d.toJson.compact ∨ text = d.toJson.pretty →
      d.ComesBack origin (read origin text)) ∧
    ∀ (path : Path) (dialect : Dialect) (steps : List Step),
      totalBytes steps < UInt32.size → (steps.flatMap Step.requests).length + 1 < UInt32.size →
      let d := build path dialect steps
      d.linkDefect? = none ∧
      ∀ text, text = d.toJson.compact ∨ text = d.toJson.pretty →
        ∃ reloaded, read origin text = .ok reloaded ∧ reloaded = d ∧
          (∀ offset, reloaded.tokenAt? offset = d.tokenAt? offset) ∧
          (∀ names id, reloaded.classify? names id = d.classify? names id) ∧
          ∀ p : Project,
            (∀ id, p.goto? reloaded id = p.goto? d id ∧ p.overlay? reloaded id = p.overlay? d id) ∧
            ∀ offset, p.gotoAt? reloaded offset = p.gotoAt? d offset ∧
              p.overlayAt? reloaded offset = p.overlayAt? d offset := by
  have htexts : ∀ (d : Document) (text : String),
      text = d.toJson.compact ∨ text = d.toJson.pretty → d.ComesBack origin (read origin text) := by
    rintro d text (rfl | rfl)
    · exact d.comesBack origin .compact
    · exact d.comesBack origin .pretty
  refine ⟨fun d => d.comesBack origin, htexts, ?_⟩
  intro path dialect steps hbytes hnodes d
  have hlinks : d.linkDefect? = none := linkDefect?_build path dialect hbytes hnodes
  refine ⟨hlinks, fun text htext => ?_⟩
  have hread : read origin text = .ok d := (htexts d text htext).same_iff.mpr hlinks
  exact ⟨d, hread, rfl, fun _ => rfl, fun _ _ => rfl, fun _ => ⟨fun _ => ⟨rfl, rfl⟩,
    fun _ => ⟨rfl, rfl⟩⟩⟩

/-- The document of a builder that closed too often and too seldom is read back, and a document
without nodes is refused. -/
theorem written_document_reads_back_unbalanced :
    let d := build ⟨"services.yaml"⟩ .config [.close, .keyValue "services", .open .mapping "",
      .scalarEntry "class" "é", .advance 4, .leaf .text "#"]
    (∃ reloaded, read ⟨"tree.json"⟩ d.toJson.compact = .ok reloaded ∧ reloaded = d) ∧
    read ⟨"tree.json"⟩ (toJson ⟨⟨"services.yaml"⟩, .config, #[]⟩).pretty
      = .error (.malformed ⟨"tree.json"⟩ (.stated "document has no nodes")) := by
  intro d
  obtain ⟨-, htexts, hbuilt⟩ := written_document_reads_back ⟨"tree.json"⟩
  obtain ⟨-, hreloads⟩ := hbuilt ⟨"services.yaml"⟩ .config
    [.close, .keyValue "services", .open .mapping "", .scalarEntry "class" "é", .advance 4,
      .leaf .text "#"] (by decide) (by decide)
  obtain ⟨reloaded, hread, heq, -⟩ := hreloads d.toJson.compact (.inl rfl)
  have hempty := (htexts ⟨⟨"services.yaml"⟩, .config, #[]⟩ _ (.inr rfl)).refused .noNodes rfl
  exact ⟨⟨reloaded, hread, heq⟩, hempty⟩

end Document

end Signpost
