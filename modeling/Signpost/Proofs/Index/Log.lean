/-
`Proofs/Index/Log.lean` -- the index as a view of its log.

The index keeps nine tables, and one entry may touch several of them. What a reader sees is none the
less a short function of the entries in order: `Reflects` spells that function out for every way of
asking, in terms of the log alone, and `reflects_ofEntries` proves it for every log, refused entries
and repeated keys included. A loaded snapshot is one such log, of which `Serves` says the same in
terms of the sections of the snapshot.

The work is done once. `insert_eq` says what one entry does to all nine tables, each as a `record`
under a key that the entry may or may not have; `Table.find?_foldl_record` then turns a whole log
into the writes under one key. What is left for each look-up is its policy on repeated keys: keep
the first of each identity, put the latest in front, replace, or append.
-/
import Signpost.Index.Snapshot
import Signpost.Proofs.Collection
import Mathlib.Data.List.Induction

set_option autoImplicit false

namespace Signpost

/-! ## What an entry is about -/

namespace Entry

/-- The declaration that the entry makes known by signature, if it has one: the one it gives, or the
one of the class it gives. -/
def declaration? : Entry → Option Declaration
  | .element d _ => some d
  | .classInfo c => some c.declaration
  | _ => none

/-- The declaration for which the entry gives a literal, and the literal. -/
def literal? : Entry → Option (Declaration × String)
  | .element d (some value) => some (d, value)
  | _ => none

/-- The service definition that the entry gives. -/
def service? : Entry → Option ServiceDefinition
  | .service d => some d
  | _ => none

/-- The parameter definition that the entry gives. -/
def parameter? : Entry → Option ParameterDefinition
  | .parameter d => some d
  | _ => none

/-- The class that the entry gives. -/
def class? : Entry → Option ClassInfo
  | .classInfo c => some c
  | _ => none

/-- The template that the entry gives. -/
def template? : Entry → Option Template
  | .template t => some t
  | _ => none

/-- The route that the entry gives. -/
def route? : Entry → Option Route
  | .route r => some r
  | _ => none

/-- The declaration that the entry gives as a translation. -/
def translation? : Entry → Option Declaration
  | .translation d => some d
  | _ => none

/-- The declaration that the entry gives as a file of a translation domain. -/
def domainFile? : Entry → Option Declaration
  | .domainFile d => some d
  | _ => none

end Entry

/-- The domain and the key of a translation; any other declaration has none. -/
def Declaration.translationKey? : Declaration → Option (String × String)
  | .translationEntry domain key _ => some (domain, key)
  | _ => none

/-- The domain of a file of a translation domain; any other declaration has none. -/
def Declaration.domain? : Declaration → Option String
  | .translationDomain domain _ => some domain
  | _ => none

/-- The identity of a declaration that a literal can be given for: one with a signature. -/
def Declaration.literalKey? (d : Declaration) : Option Declaration.Identity :=
  d.signature?.map fun _ => d.identity

/-! ## What one entry does -/

/-- What an entry writes: a value with its key, if the entry gives such a value and the value has
one. -/
def Entry.write? {β κ : Type} (pick : Entry → Option β) (key : β → Option κ) (e : Entry) :
    Option (κ × β) :=
  (pick e).bind fun b => (key b).map fun k => (k, b)

namespace Index

/-- **One entry, all nine tables.** A class is the one entry that writes into more than one of them
without being told to; an element writes its literal only if it has a signature. -/
theorem insert_eq (i : Index) (e : Entry) :
    i.insert e =
      { elements := i.elements.record (fun d ds => insertBy Declaration.identity (ds.getD []) d)
          (e.write? Entry.declaration? Declaration.signature?)
        literals := i.literals.record (fun p _ => p.2)
          (e.write? Entry.literal? fun p => p.1.literalKey?)
        services := i.services.record (fun d ds => d :: ds.getD [])
          (e.write? Entry.service? fun d => ServiceKey.ofText? d.id)
        parameters := i.parameters.record (fun d ds => d :: ds.getD [])
          (e.write? Entry.parameter? fun d => ParameterKey.ofText? d.key)
        classes := i.classes.record (fun c _ => c)
          (e.write? Entry.class? fun c => some (ClassName.key c.name))
        templates := i.templates.record (fun t _ => t)
          (e.write? Entry.template? fun t => some t.name)
        routes := i.routes.record (fun r _ => r) (e.write? Entry.route? fun r => some r.name)
        translations := i.translations.record (fun d ds => ds.getD [] ++ [d])
          (e.write? Entry.translation? Declaration.translationKey?)
        domainFiles := i.domainFiles.record (fun d ds => ds.getD [] ++ [d])
          (e.write? Entry.domainFile? Declaration.domain?) } := by
  cases e with
  | element d literal =>
    -- the kind of the declaration decides whether it has a signature
    cases d <;> cases literal <;> rfl
  | service d =>
    simp only [insert, insert?, insertService?, Entry.write?, Entry.service?, Option.bind_some]
    cases ServiceKey.ofText? d.id <;> rfl
  | parameter d =>
    simp only [insert, insert?, insertParameter?, Entry.write?, Entry.parameter?, Option.bind_some]
    cases ParameterKey.ofText? d.key <;> rfl
  | classInfo c => rfl
  | template t => rfl
  | route r => rfl
  | translation d => cases d <;> rfl
  | domainFile d => cases d <;> rfl

/-! ## What a log leaves behind -/

/-- The writes of a log under one key are the values of that key among those the log gives. -/
theorem writes_at {β κ : Type} [DecidableEq κ] (pick : Entry → Option β) (key : β → Option κ)
    (log : List Entry) (k : κ) :
    ((log.filterMap (Entry.write? pick key)).filter fun w => w.1 = k).map Prod.snd
      = (log.filterMap pick).filter fun b => key b = some k := by
  induction log with
  | nil => rfl
  | cons e log ih =>
    cases hpick : pick e with
    | none =>
      rw [List.filterMap_cons_none (by rw [Entry.write?, hpick]; rfl), List.filterMap_cons_none hpick,
        ih]
    | some b =>
      rw [List.filterMap_cons_some hpick, List.filter_cons]
      cases hkey : key b with
      | none =>
        rw [List.filterMap_cons_none (by rw [Entry.write?, hpick, Option.bind_some, hkey]; rfl), ih]
        rfl
      | some j =>
        have hwrite : e.write? pick key = some (j, b) := by
          rw [Entry.write?, hpick, Option.bind_some, hkey]
          rfl
        rw [List.filterMap_cons_some hwrite, List.filter_cons]
        by_cases hj : j = k
        · simp [hj, ih]
        · simp [hj, ih]

/-- A table whose step is a `record` is written by the log on its own. -/
theorem table_ofEntries {β κ ν : Type} [DecidableEq κ] (table : Index → Table κ ν)
    {policy : β → Option ν → ν} {pick : Entry → Option β} {key : β → Option κ}
    (hstep : ∀ i e, table (i.insert e) = (table i).record policy (e.write? pick key))
    (hempty : table empty = ∅) (log : List Entry) :
    table (ofEntries log) = log.foldl (fun t e => t.record policy (e.write? pick key)) ∅ := by
  rw [← hempty]
  exact (List.foldl_hom table fun i e => (hstep i e).symm).symm

/-- **What a log leaves in a table**, for any table whose step is a `record`. -/
theorem find?_table_ofEntries {β κ ν : Type} [DecidableEq κ] {table : Index → Table κ ν}
    {policy : β → Option ν → ν} {pick : Entry → Option β} {key : β → Option κ}
    (hstep : ∀ i e, table (i.insert e) = (table i).record policy (e.write? pick key))
    (hempty : table empty = ∅) (log : List Entry) (k : κ) :
    (table (ofEntries log)).find? k
      = ((log.filterMap pick).filter fun b => key b = some k).foldl
          (fun found b => some (policy b found)) none := by
  rw [table_ofEntries table hstep hempty, Table.find?_foldl_record, writes_at, Table.find?_empty]

/-- A list kept under a key grows as it would on its own. -/
theorem getD_foldl_some {β ν : Type} (grow : List ν → β → List ν) (bs : List β)
    (found : Option (List ν)) :
    (bs.foldl (fun found b => some (grow (found.getD []) b)) found).getD []
      = bs.foldl grow (found.getD []) := by
  induction bs generalizing found with
  | nil => rfl
  | cons b bs ih => rw [List.foldl_cons, ih, List.foldl_cons]; rfl

/-! ### The policies on repeated keys

Nine tables, four policies. Each is proved once for every table that follows it; the first one, which
keeps the first of each identity, has one table only. -/

section Policies

variable {β κ : Type} [DecidableEq κ] {pick : Entry → Option β} {key : β → Option κ}

/-- Values that are put in front stand there with the latest first. -/
theorem getD_find?_of_front {table : Index → Table κ (List β)}
    (hstep : ∀ i e, table (i.insert e)
      = (table i).record (fun b bs => b :: bs.getD []) (e.write? pick key))
    (hempty : table empty = ∅) (log : List Entry) (k : κ) :
    ((table (ofEntries log)).find? k).getD []
      = ((log.filterMap pick).filter fun b => key b = some k).reverse := by
  rw [find?_table_ofEntries hstep hempty, getD_foldl_some fun bs b => b :: bs]
  simp

/-- Values that are appended stand there in order. -/
theorem getD_find?_of_append {table : Index → Table κ (List β)}
    (hstep : ∀ i e, table (i.insert e)
      = (table i).record (fun b bs => bs.getD [] ++ [b]) (e.write? pick key))
    (hempty : table empty = ∅) (log : List Entry) (k : κ) :
    ((table (ofEntries log)).find? k).getD []
      = (log.filterMap pick).filter fun b => key b = some k := by
  rw [find?_table_ofEntries hstep hempty, getD_foldl_some fun bs b => bs ++ [b]]
  rw [List.foldl_append_eq_append, ← List.flatMap_def, List.flatMap_singleton']
  rfl

/-- Of values that replace each other the last one stands there. -/
theorem find?_of_replace {ν : Type} {table : Index → Table κ ν} (value : β → ν)
    (hstep : ∀ i e, table (i.insert e)
      = (table i).record (fun b _ => value b) (e.write? pick key))
    (hempty : table empty = ∅) (log : List Entry) (k : κ) :
    (table (ofEntries log)).find? k
      = ((log.filterMap pick).filter fun b => key b = some k).getLast?.map value := by
  rw [find?_table_ofEntries hstep hempty]
  generalize (log.filterMap pick).filter (fun b => key b = some k) = bs
  cases bs using List.reverseRecOn with
  | nil => rfl
  | append_singleton bs b => simp

/-- The same for values that stand there themselves, under a key that all of them have. -/
theorem find?_of_replace_self {table : Index → Table κ β} {name : β → κ}
    (hstep : ∀ i e, table (i.insert e)
      = (table i).record (fun b _ => b) (e.write? pick fun b => some (name b)))
    (hempty : table empty = ∅) (log : List Entry) (k : κ) :
    (table (ofEntries log)).find? k
      = ((log.filterMap pick).filter fun b => name b = k).getLast? := by
  rw [find?_of_replace (fun b => b) hstep hempty, Option.map_id']
  simp only [Option.some.injEq]

end Policies

/-! ### The look-ups, one by one -/

section Lookups

variable (log : List Entry)

/-- Under a signature stand the declarations of the log that have it, each once, in the order of the
log. -/
theorem bySignature_ofEntries (signature : String) :
    (ofEntries log).bySignature signature
      = keepFirst Declaration.identity
          ((log.filterMap Entry.declaration?).filter fun d => d.signature? = some signature) := by
  rw [bySignature, find?_table_ofEntries (fun i e => by rw [insert_eq]) rfl, getD_foldl_some,
    ← distinctBy_eq_keepFirst]
  rfl

/-- The literal of a declaration is the last one that the log gives for an identical declaration. -/
theorem literalOf?_ofEntries (d : Declaration) :
    (ofEntries log).literalOf? d
      = (((log.filterMap Entry.literal?).filter
          fun p => p.1.literalKey? = some d.identity).getLast?).map Prod.snd :=
  find?_of_replace Prod.snd (fun i e => by rw [insert_eq]) rfl log d.identity

/-- Under the key of a service stand its definitions, the latest first. None is dropped. -/
theorem servicesAt_ofEntries (key : ServiceKey) :
    (ofEntries log).servicesAt key
      = ((log.filterMap Entry.service?).filter
          fun d => ServiceKey.ofText? d.id = some key).reverse :=
  getD_find?_of_front (fun i e => by rw [insert_eq]) rfl log key

/-- Parameters are kept as services are. -/
theorem parametersAt_ofEntries (key : ParameterKey) :
    (ofEntries log).parametersAt key
      = ((log.filterMap Entry.parameter?).filter
          fun d => ParameterKey.ofText? d.key = some key).reverse :=
  getD_find?_of_front (fun i e => by rw [insert_eq]) rfl log key

/-- The class of a name is the last one in the log whose name is the same in lowercase. -/
theorem class?_ofEntries (name : String) :
    (ofEntries log).class? name
      = ((log.filterMap Entry.class?).filter
          fun c => ClassName.key c.name = ClassName.key name).getLast? :=
  find?_of_replace_self (fun i e => by rw [insert_eq]) rfl log (ClassName.key name)

/-- The template of a name is the last one in the log. -/
theorem template?_ofEntries (name : String) :
    (ofEntries log).template? name
      = ((log.filterMap Entry.template?).filter fun t => t.name = name).getLast? :=
  find?_of_replace_self (fun i e => by rw [insert_eq]) rfl log name

/-- The route of a name is the last one in the log. -/
theorem route?_ofEntries (name : String) :
    (ofEntries log).route? name
      = ((log.filterMap Entry.route?).filter fun r => r.name = name).getLast? :=
  find?_of_replace_self (fun i e => by rw [insert_eq]) rfl log name

/-- The entries for a translation key are kept as they came, repetitions included. -/
theorem translationsOf_ofEntries (domain key : String) :
    (ofEntries log).translationsOf domain key
      = (log.filterMap Entry.translation?).filter
          fun d => d.translationKey? = some (domain, key) :=
  getD_find?_of_append (fun i e => by rw [insert_eq]) rfl log (domain, key)

/-- So are the files of a translation domain. -/
theorem filesOf_ofEntries (domain : String) :
    (ofEntries log).filesOf domain
      = (log.filterMap Entry.domainFile?).filter fun d => d.domain? = some domain :=
  getD_find?_of_append (fun i e => by rw [insert_eq]) rfl log domain

end Lookups

/-! ### All templates

The list of all templates is read off the table itself and not through its keys, so it takes an
invariant of the table: every template stands under its own name, and no name twice. -/

/-- What holds of the empty index and is kept by every entry holds after every log. -/
theorem ofEntries_induction {P : Index → Prop} (hempty : P empty)
    (hstep : ∀ i e, P i → P (i.insert e)) (log : List Entry) : P (ofEntries log) := by
  induction log using List.reverseRecOn with
  | nil => exact hempty
  | append_singleton log e ih =>
    rw [ofEntries_concat]
    exact hstep _ e ih

/-- Templates stand under their own names. -/
theorem keyedBy_templates (log : List Entry) :
    (ofEntries log).templates.KeyedBy Template.name := by
  refine ofEntries_induction (P := fun i => i.templates.KeyedBy Template.name)
    (Table.keyedBy_empty Template.name) ?_ log
  intro i e hi
  have hstep : (i.insert e).templates
      = i.templates.record (fun t _ => t) (e.write? Entry.template? fun t => some t.name) := by
    rw [insert_eq]
  rw [hstep, Entry.write?]
  cases e.template? with
  | none => exact hi
  | some t => exact hi.insert t

/-- A template is among all of them when it is the one of its name. -/
theorem mem_allTemplates {i : Index} (hi : i.templates.KeyedBy Template.name) {t : Template} :
    t ∈ i.allTemplates ↔ i.template? t.name = some t := by
  rw [allTemplates, List.mem_mergeSort]
  exact hi.mem_values

/-- All templates come by increasing name, so no name comes twice. -/
theorem pairwise_allTemplates {i : Index} (hi : i.templates.KeyedBy Template.name) :
    i.allTemplates.Pairwise fun a b => a.name < b.name := by
  have hsorted : i.allTemplates.Pairwise fun a b => a.name ≤ b.name := by
    have hle : i.allTemplates.Pairwise fun a b => decide (a.name ≤ b.name) = true := by
      refine List.pairwise_mergeSort ?_ ?_ i.templates.values
      · intro a b c hab hbc
        rw [decide_eq_true_eq] at hab hbc ⊢
        exact String.le_trans hab hbc
      · intro a b
        rw [Bool.or_eq_true, decide_eq_true_eq, decide_eq_true_eq]
        exact String.le_total a.name b.name
    exact hle.imp fun hab => of_decide_eq_true hab
  have hdistinct : i.allTemplates.Pairwise fun a b => a.name ≠ b.name := by
    have hnames : (i.templates.values.map Template.name).Nodup := by
      rw [hi.map_values]
      exact hi.nodup
    have hvalues : i.templates.values.Pairwise fun a b => a.name ≠ b.name :=
      List.pairwise_map.mp hnames
    exact (List.mergeSort_perm _ _).symm.pairwise hvalues Ne.symm
  refine (hsorted.and hdistinct).imp ?_
  intro a b h
  refine String.not_le.mp fun hba => ?_
  exact h.2 (String.le_antisymm h.1 hba)

/-! ## The whole view -/

/-- Every answer of the index is this function of the log. -/
structure Reflects (i : Index) (log : List Entry) : Prop where
  /-- By signature: the declarations given, those of classes included, each identity once. -/
  bySignature : ∀ signature, i.bySignature signature
    = keepFirst Declaration.identity
        ((log.filterMap Entry.declaration?).filter fun d => d.signature? = some signature)
  /-- The last literal that an accepted entry gave for the declaration. -/
  literalOf? : ∀ d, i.literalOf? d
    = (((log.filterMap Entry.literal?).filter
        fun p => p.1.literalKey? = some d.identity).getLast?).map Prod.snd
  /-- All definitions of the key, the latest first. -/
  servicesAt : ∀ key, i.servicesAt key
    = ((log.filterMap Entry.service?).filter
        fun d => ServiceKey.ofText? d.id = some key).reverse
  /-- All definitions of the key, the latest first. -/
  parametersAt : ∀ key, i.parametersAt key
    = ((log.filterMap Entry.parameter?).filter
        fun d => ParameterKey.ofText? d.key = some key).reverse
  /-- The last class of that name in lowercase normal form. -/
  class? : ∀ name, i.class? name
    = ((log.filterMap Entry.class?).filter
        fun c => ClassName.key c.name = ClassName.key name).getLast?
  /-- The last template of that name. -/
  template? : ∀ name, i.template? name
    = ((log.filterMap Entry.template?).filter fun t => t.name = name).getLast?
  /-- All templates: by increasing name, -/
  allTemplates_sorted : i.allTemplates.Pairwise fun a b => a.name < b.name
  /-- and exactly those that are the last of their name. -/
  mem_allTemplates : ∀ t, t ∈ i.allTemplates
    ↔ ((log.filterMap Entry.template?).filter fun t' => t'.name = t.name).getLast? = some t
  /-- The last route of that name. -/
  route? : ∀ name, i.route? name
    = ((log.filterMap Entry.route?).filter fun r => r.name = name).getLast?
  /-- The translations of the key in the domain, in order. -/
  translationsOf : ∀ domain key, i.translationsOf domain key
    = (log.filterMap Entry.translation?).filter fun d => d.translationKey? = some (domain, key)
  /-- The files of the domain, in order. -/
  filesOf : ∀ domain, i.filesOf domain
    = (log.filterMap Entry.domainFile?).filter fun d => d.domain? = some domain

/-- **The look-ups after a log**, all of them. -/
theorem reflects_ofEntries (log : List Entry) : (ofEntries log).Reflects log where
  bySignature := bySignature_ofEntries log
  literalOf? := literalOf?_ofEntries log
  servicesAt := servicesAt_ofEntries log
  parametersAt := parametersAt_ofEntries log
  class? := class?_ofEntries log
  template? := template?_ofEntries log
  allTemplates_sorted := pairwise_allTemplates (keyedBy_templates log)
  mem_allTemplates := by
    intro t
    rw [mem_allTemplates (keyedBy_templates log), template?_ofEntries]
  route? := route?_ofEntries log
  translationsOf := translationsOf_ofEntries log
  filesOf := filesOf_ofEntries log

end Index

/-! ## Loaded snapshots

A snapshot is told to the index section by section. What a look-up asks for stands in one section, or
in two where classes are found by signature too. -/

namespace Snapshot

variable (s : Snapshot)

/-- What is picked out of a snapshot is picked out of its sections, one after the other. -/
theorem filterMap_entries {β : Type} (pick : Entry → Option β) :
    s.entries.filterMap pick
      = s.elements.filterMap (fun e => pick (.element e.declaration e.literal))
        ++ s.services.filterMap (fun d => pick (.service d))
        ++ s.parameters.filterMap (fun d => pick (.parameter d))
        ++ s.classes.filterMap (fun c => pick (.classInfo c))
        ++ s.templates.filterMap (fun t => pick (.template t))
        ++ s.routes.filterMap (fun r => pick (.route r))
        ++ s.translations.filterMap (fun d => pick (.translation d))
        ++ s.domainFiles.filterMap (fun d => pick (.domainFile d)) := by
  simp only [entries, List.filterMap_append, List.filterMap_map, Function.comp_def]

/-- The declarations that a snapshot tells: its elements first, and then those of its classes. -/
theorem filterMap_declaration?_entries :
    s.entries.filterMap Entry.declaration?
      = s.elements.map ElementEntry.declaration ++ s.classes.map ClassInfo.declaration := by
  simp [filterMap_entries, Entry.declaration?]

/-- The literals that it tells are those of its elements that have one. -/
theorem filterMap_literal?_entries :
    s.entries.filterMap Entry.literal?
      = s.elements.filterMap fun e => e.literal.map fun value => (e.declaration, value) := by
  have helement : (fun e : ElementEntry => Entry.literal? (.element e.declaration e.literal))
      = fun e => e.literal.map fun value => (e.declaration, value) := by
    funext e
    cases e.literal <;> rfl
  rw [filterMap_entries, helement]
  simp [Entry.literal?]

/-- Each of the other sections tells the entries of its kind, and no other section does. -/
theorem filterMap_service?_entries : s.entries.filterMap Entry.service? = s.services := by
  simp [filterMap_entries, Entry.service?]

theorem filterMap_parameter?_entries : s.entries.filterMap Entry.parameter? = s.parameters := by
  simp [filterMap_entries, Entry.parameter?]

theorem filterMap_class?_entries : s.entries.filterMap Entry.class? = s.classes := by
  simp [filterMap_entries, Entry.class?]

theorem filterMap_template?_entries : s.entries.filterMap Entry.template? = s.templates := by
  simp [filterMap_entries, Entry.template?]

theorem filterMap_route?_entries : s.entries.filterMap Entry.route? = s.routes := by
  simp [filterMap_entries, Entry.route?]

theorem filterMap_translation?_entries :
    s.entries.filterMap Entry.translation? = s.translations := by
  simp [filterMap_entries, Entry.translation?]

theorem filterMap_domainFile?_entries : s.entries.filterMap Entry.domainFile? = s.domainFiles := by
  simp [filterMap_entries, Entry.domainFile?]

end Snapshot

namespace Index

/-- Every answer of the index is this function of the sections of a snapshot. -/
structure Serves (i : Index) (s : Snapshot) : Prop where
  /-- By signature: the elements and then the classes, each identity once. -/
  bySignature : ∀ signature, i.bySignature signature
    = keepFirst Declaration.identity
        ((s.elements.map ElementEntry.declaration ++ s.classes.map ClassInfo.declaration).filter
          fun d => d.signature? = some signature)
  /-- The last literal that an element gives for the declaration. -/
  literalOf? : ∀ d, i.literalOf? d
    = (((s.elements.filterMap fun e => e.literal.map fun value => (e.declaration, value)).filter
        fun p => p.1.literalKey? = some d.identity).getLast?).map Prod.snd
  /-- The services of the key, the last one first. -/
  servicesAt : ∀ key, i.servicesAt key
    = (s.services.filter fun d => ServiceKey.ofText? d.id = some key).reverse
  /-- The parameters of the key, the last one first. -/
  parametersAt : ∀ key, i.parametersAt key
    = (s.parameters.filter fun d => ParameterKey.ofText? d.key = some key).reverse
  /-- The last class of that name in lowercase normal form. -/
  class? : ∀ name, i.class? name
    = (s.classes.filter fun c => ClassName.key c.name = ClassName.key name).getLast?
  /-- The last template of that name. -/
  template? : ∀ name, i.template? name = (s.templates.filter fun t => t.name = name).getLast?
  /-- All templates: by increasing name, -/
  allTemplates_sorted : i.allTemplates.Pairwise fun a b => a.name < b.name
  /-- and exactly those that are the last of their name. -/
  mem_allTemplates : ∀ t, t ∈ i.allTemplates
    ↔ (s.templates.filter fun t' => t'.name = t.name).getLast? = some t
  /-- The last route of that name. -/
  route? : ∀ name, i.route? name = (s.routes.filter fun r => r.name = name).getLast?
  /-- The translations of the key in the domain, in order. -/
  translationsOf : ∀ domain key, i.translationsOf domain key
    = s.translations.filter fun d => d.translationKey? = some (domain, key)
  /-- The files of the domain, in order. -/
  filesOf : ∀ domain, i.filesOf domain = s.domainFiles.filter fun d => d.domain? = some domain

/-- What reflects the entries of a snapshot serves its sections. -/
theorem Reflects.serves {i : Index} {s : Snapshot} (h : i.Reflects s.entries) : i.Serves s where
  bySignature := s.filterMap_declaration?_entries ▸ h.bySignature
  literalOf? := s.filterMap_literal?_entries ▸ h.literalOf?
  servicesAt := s.filterMap_service?_entries ▸ h.servicesAt
  parametersAt := s.filterMap_parameter?_entries ▸ h.parametersAt
  class? := s.filterMap_class?_entries ▸ h.class?
  template? := s.filterMap_template?_entries ▸ h.template?
  allTemplates_sorted := h.allTemplates_sorted
  mem_allTemplates := s.filterMap_template?_entries ▸ h.mem_allTemplates
  route? := s.filterMap_route?_entries ▸ h.route?
  translationsOf := s.filterMap_translation?_entries ▸ h.translationsOf
  filesOf := s.filterMap_domainFile?_entries ▸ h.filesOf

/-- **The index refines its log.** Whatever entries an index is told, in whatever order, every way of
asking answers from the log alone. Loading a snapshot is one such log, and what it leaves answers
every question from the section of the snapshot that the question is about. -/
theorem index_reflects_log :
    (∀ log : List Entry, (ofEntries log).Reflects log)
      ∧ ∀ s : Snapshot, s.toIndex.Reflects s.entries ∧ s.toIndex.Serves s := by
  refine ⟨reflects_ofEntries, fun s => ?_⟩
  have hreflects : s.toIndex.Reflects s.entries := reflects_ofEntries s.entries
  exact ⟨hreflects, hreflects.serves⟩

/-- A snapshot with something in each section, a service twice among it. -/
def clockSnapshot : Snapshot where
  elements := [⟨.constant "App\\Ids" "CLOCK" ⟨⟨"src/Ids.php"⟩, none⟩, some "clock"⟩]
  services := [⟨"clock", some "Old\\Clock", none, none⟩, ⟨"@Clock", some "App\\Clock", none, none⟩]
  parameters := [⟨"zone", some "UTC", none⟩]
  classes := [⟨"\\App\\Clock", ⟨⟨"src/Clock.php"⟩, none⟩, none, none⟩]
  templates := [⟨"clock.html", ⟨⟨"clock.html"⟩, none⟩, []⟩]
  routes := [⟨"now", some "App\\Clock::now", none⟩]
  translations := [.translationEntry "messages" "now" ⟨⟨"messages.yaml"⟩, none⟩]
  domainFiles := [.translationDomain "messages" ⟨⟨"messages.yaml"⟩, none⟩]

/-- Each look-up finds what its section holds, the later definition of the service first. -/
theorem index_reflects_log_clock :
    let i := clockSnapshot.toIndex
    i.servicesAt ⟨"clock"⟩ = clockSnapshot.services.reverse
      ∧ i.parametersAt ⟨"zone"⟩ = clockSnapshot.parameters
      ∧ i.class? "app\\clock" = clockSnapshot.classes.head?
      ∧ i.bySignature "#C\\App\\Clock" = clockSnapshot.classes.map ClassInfo.declaration
      ∧ i.bySignature "#K#C\\App\\Ids.CLOCK" = clockSnapshot.elements.map ElementEntry.declaration
      ∧ i.literalOf? (.constant "App\\Ids" "CLOCK" ⟨⟨"src//Ids.php"⟩, none⟩) = some "clock"
      ∧ i.template? "clock.html" = clockSnapshot.templates.head?
      ∧ i.route? "now" = clockSnapshot.routes.head?
      ∧ i.translationsOf "messages" "now" = clockSnapshot.translations
      ∧ i.filesOf "messages" = clockSnapshot.domainFiles := by
  intro i
  have h : i.Serves clockSnapshot := (index_reflects_log.2 clockSnapshot).2
  refine ⟨(h.servicesAt _).trans ?_, (h.parametersAt _).trans ?_, (h.class? _).trans ?_,
    (h.bySignature _).trans ?_, (h.bySignature _).trans ?_, (h.literalOf? _).trans ?_,
    (h.template? _).trans ?_, (h.route? _).trans ?_, (h.translationsOf _ _).trans ?_,
    (h.filesOf _).trans ?_⟩ <;> decide +kernel

end Index

end Signpost
