/-
`Proofs/Project/Block.lean` -- going to blocks.

A reference to a block names no template, so the answer runs through all of them. The table of
templates keeps one version of each name and knows no order of its own; the answer is none the less
determined by the log, because the list of all templates is strictly sorted by name and has the
latest versions as its members. A strictly sorted list is determined by its members: whatever the
order in which templates of different names were told, the same blocks come out in the same order.

Specification: 4.5.
-/
import Signpost.Proofs.Project.Goto
import Mathlib.Data.List.Sort
import Mathlib.Logic.Relation

set_option autoImplicit false

namespace Signpost

namespace Index

/-! ## Versions of templates -/

/-- The versions of a template that a log tells, in order. -/
def versions (log : List Entry) (name : String) : List Template :=
  (log.filterMap Entry.template?).filter fun template => template.name = name

/-- The latest version of every template told, by increasing name. -/
structure LatestVersions (log : List Entry) (templates : List Template) : Prop where
  sorted : templates.Pairwise fun a b => a.name < b.name
  mem_iff : ∀ template,
    template ∈ templates ↔ (versions log template.name).getLast? = some template

theorem latestVersions_allTemplates (log : List Entry) :
    LatestVersions log (ofEntries log).allTemplates where
  sorted := (reflects_ofEntries log).allTemplates_sorted
  mem_iff := (reflects_ofEntries log).mem_allTemplates

/-- **The latest versions are one list**, also for different logs that agree about them. -/
theorem LatestVersions.unique {log other : List Entry} {templates others : List Template}
    (h : LatestVersions log templates) (hother : LatestVersions other others)
    (hlatest : ∀ name, (versions other name).getLast? = (versions log name).getLast?) :
    templates = others := by
  have hirrefl : Std.Irrefl fun a b : Template => a.name < b.name :=
    ⟨fun a => String.lt_irrefl a.name⟩
  have hantisymm : Std.Antisymm fun a b : Template => a.name < b.name :=
    ⟨fun _ _ hab hba => absurd hba (String.lt_asymm hab)⟩
  refine h.sorted.eq_of_mem_iff hother.sorted fun template => ?_
  rw [h.mem_iff, hother.mem_iff, hlatest]

/-! ## Reordered logs -/

/-- Two logs in which a template and a neighbour that is no template of the same name have changed
places. -/
inductive Exchanged : List Entry → List Entry → Prop
  | intro (before after : List Entry) (template : Template) (e : Entry)
    (h : ∀ other, e.template? = some other → other.name ≠ template.name) :
    Exchanged (before ++ .template template :: e :: after)
      (before ++ e :: .template template :: after)

/-- Two logs that differ only in where templates of different names stand. -/
def Reordered : List Entry → List Entry → Prop := Relation.EqvGen Exchanged

theorem Exchanged.versions_eq {log other : List Entry} (h : Exchanged log other) (name : String) :
    versions log name = versions other name := by
  obtain ⟨before, after, template, e, hne⟩ := h
  have htemplate : (Entry.template template).template? = some template := rfl
  simp only [versions, List.filterMap_append, List.filter_append, List.append_cancel_left_eq]
  cases he : e.template? with
  | none =>
    rw [List.filterMap_cons_some htemplate, List.filterMap_cons_none he,
      List.filterMap_cons_none he, List.filterMap_cons_some htemplate]
  | some neighbour =>
    rw [List.filterMap_cons_some htemplate, List.filterMap_cons_some he,
      List.filterMap_cons_some he, List.filterMap_cons_some htemplate]
    -- at most one of the two has the name that is asked for
    by_cases hname : template.name = name
    · have hother : neighbour.name ≠ name := hname ▸ hne neighbour he
      simp [hname, hother]
    · simp [List.filter_cons, hname]

theorem Reordered.versions_eq {log other : List Entry} (h : Reordered log other) (name : String) :
    versions log name = versions other name := by
  induction h with
  | rel log other h => exact h.versions_eq name
  | refl log => rfl
  | symm log other _ ih => exact ih.symm
  | trans log middle other _ _ ih ih' => exact ih.trans ih'

end Index

/-! ## The answer -/

namespace Project

theorem blocksOf_eq (name : String) (template : Template) :
    blocksOf name template
      = (template.blocks.filter fun b => b.name = name).map
          fun b => .templateBlock name template.name b.location := by
  unfold blocksOf
  simp only [beq_eq_decide]
  refine List.map_congr_left fun b hb => ?_
  rw [of_decide_eq_true (List.mem_filter.mp hb).2]

/-- A reference to a block is answered by the blocks of its name, if there are any. -/
theorem goto?_of_block {p : Project} {d : Document} {t : NodeId}
    (hrole : p.role? d t = some .templateBlockReference) :
    p.goto? d t = nonEmpty? (p.index.allTemplates.flatMap (blocksOf (d.textOf t))) := by
  rw [goto?, hrole]
  rfl

/-- **A reference to a block lists the blocks of the latest templates.** Whatever was told, the
answer has one declaration for each block of that name in the latest version of each template,
template by template in the order of their names and within a template as it lists them; there is no
answer if there is no such block. Logs with the same latest versions give the same answer, so
versions that were replaced do not count; and the order in which templates of different names were
told does not show. -/
theorem block_reference_lists_latest_blocks (log : List Entry) (settings : Settings) (d : Document)
    (t : NodeId)
    (hrole : (Project.mk (Index.ofEntries log) settings).role? d t = some .templateBlockReference) :
    (∃ templates blocks, Index.LatestVersions log templates
      ∧ blocks = (templates.flatMap fun template =>
        (template.blocks.filter fun b => b.name = d.textOf t).map
          fun b => Declaration.templateBlock (d.textOf t) template.name b.location)
      ∧ (Project.mk (Index.ofEntries log) settings).goto? d t
        = if blocks = [] then none else some blocks)
    ∧ (∀ other,
      (∀ name, (Index.versions other name).getLast? = (Index.versions log name).getLast?) →
      (Project.mk (Index.ofEntries other) settings).goto? d t
        = (Project.mk (Index.ofEntries log) settings).goto? d t)
    ∧ ∀ other, Index.Reordered log other →
      (Project.mk (Index.ofEntries other) settings).goto? d t
        = (Project.mk (Index.ofEntries log) settings).goto? d t := by
  have hsame : ∀ other,
      (∀ name, (Index.versions other name).getLast? = (Index.versions log name).getLast?) →
      (Project.mk (Index.ofEntries other) settings).goto? d t
        = (Project.mk (Index.ofEntries log) settings).goto? d t := by
    intro other hlatest
    -- the role is read off the document and the settings
    have hother : (Project.mk (Index.ofEntries other) settings).role? d t
        = some .templateBlockReference := hrole
    have hall : (Index.ofEntries other).allTemplates = (Index.ofEntries log).allTemplates :=
      ((Index.latestVersions_allTemplates log).unique
        (Index.latestVersions_allTemplates other) hlatest).symm
    simp only [goto?_of_block hother, goto?_of_block hrole, Index.allTemplates_lookups, hall]
  refine ⟨⟨(Index.ofEntries log).allTemplates, _, Index.latestVersions_allTemplates log, rfl, ?_⟩,
    hsame, fun other hreordered => hsame other fun name => ?_⟩
  · simp only [goto?_of_block hrole, Index.allTemplates_lookups, nonEmpty?, List.isEmpty_iff,
      ← blocksOf_eq]
  · rw [hreordered.versions_eq name]

/-- A page that prints a block. -/
def menuPage : Document :=
  .build ⟨"page.html"⟩ .template [.ident "block", .punct "(", .string "menu", .punct ")"]

/-- A version of a template in which the block stands in the given lines. -/
def menuVersion (name : String) (lines : List UInt32) : Template where
  name := name
  location := ⟨⟨name⟩, none⟩
  blocks := lines.map fun line => ⟨"menu", ⟨⟨name⟩, some ⟨line, 0, line, 4⟩⟩⟩

/-- The declaration of the block in a line of a template. -/
def menuAt (name : String) (line : UInt32) : Declaration :=
  .templateBlock "menu" name ⟨⟨name⟩, some ⟨line, 0, line, 4⟩⟩

/-- Two templates, of which the second by name is told first and in two versions. -/
def menuLog : List Entry :=
  [.template (menuVersion "shop.html" [7]), .template (menuVersion "base.html" [5, 2]),
    .template (menuVersion "shop.html" [9])]

theorem latestVersions_menuLog :
    Index.LatestVersions menuLog [menuVersion "base.html" [5, 2], menuVersion "shop.html" [9]] where
  sorted := by decide
  mem_iff := by
    intro template
    constructor
    · intro h
      rcases List.mem_pair.mp h with rfl | rfl <;> decide
    · intro h
      have htold := (List.mem_filter.mp (List.mem_of_getLast? h)).1
      simp only [menuLog, List.filterMap_cons, Entry.template?, List.filterMap_nil, List.mem_cons,
        List.not_mem_nil, or_false] at htold
      rcases htold with rfl | rfl | rfl
      · exact absurd h (by decide)
      · exact List.mem_cons_self
      · exact List.mem_cons_of_mem _ List.mem_cons_self

/-- The replaced version is gone, and telling the first template last changes nothing. -/
theorem block_reference_lists_latest_blocks_replaced :
    let answer := some [menuAt "base.html" 5, menuAt "base.html" 2, menuAt "shop.html" 9]
    let reordered : List Entry :=
      [.template (menuVersion "shop.html" [7]), .template (menuVersion "shop.html" [9]),
        .template (menuVersion "base.html" [5, 2])]
    (Project.mk (Index.ofEntries menuLog) .default).goto? menuPage 3 = answer
      ∧ (Project.mk (Index.ofEntries reordered) .default).goto? menuPage 3 = answer := by
  intro answer reordered
  have hrole : (Project.mk (Index.ofEntries menuLog) .default).role? menuPage 3
      = some .templateBlockReference := by decide +kernel
  have hreordered : Index.Reordered menuLog reordered :=
    .rel _ _ (.intro [.template (menuVersion "shop.html" [7])] []
      (menuVersion "base.html" [5, 2]) (.template (menuVersion "shop.html" [9]))
      (by rintro other ⟨⟩; decide))
  obtain ⟨⟨templates, blocks, hlatest, hblocks, hanswer⟩, -, hsame⟩ :=
    block_reference_lists_latest_blocks menuLog .default menuPage 3 hrole
  obtain rfl := latestVersions_menuLog.unique hlatest fun _ => rfl
  have hlist : blocks = [menuAt "base.html" 5, menuAt "base.html" 2, menuAt "shop.html" 9] :=
    hblocks.trans (by decide +kernel)
  rw [hlist] at hanswer
  exact ⟨hanswer, (hsame reordered hreordered).trans hanswer⟩

end Project

end Signpost
