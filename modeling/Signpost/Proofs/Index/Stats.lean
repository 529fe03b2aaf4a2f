/-
`Proofs/Index/Stats.lean` -- what the counts of an index say.

The counts are read off the tables: the number of keys for most of them, and for declarations and
translations the number of values under all keys together. `tally` says the same of the entries that
were accepted, without an index, and `stats_ofEntries` proves the two equal.

Most of this is one lemma about the keys that a log leaves in a table. Declarations take an argument
of their own. Each signature keeps its declarations free of repetitions and knows nothing of the
others; that their sum counts no declaration twice is because identical declarations have the same
signature.

Emptiness is read off the counts, and the files of translation domains are not counted. An index
that was told nothing else counts as empty and still answers.
-/
import Signpost.Proofs.Index.Filed

set_option autoImplicit false

namespace Signpost

/-! ## Accepted entries -/

/-- Whether what the entry gives has a key to stand under. -/
def Entry.hasPlace : Entry → Bool
  | .element d _ => d.signature?.isSome
  | .service d => (ServiceKey.ofText? d.id).isSome
  | .parameter d => (ParameterKey.ofText? d.key).isSome
  | .classInfo _ | .template _ | .route _ => true
  | .translation d => d.translationKey?.isSome
  | .domainFile d => d.domain?.isSome

namespace Index

/-- The entries that are accepted when the index is told the given ones in order. -/
def acceptedFrom (i : Index) : List Entry → List Entry
  | [] => []
  | e :: log =>
    match i.insert? e with
    | none => i.acceptedFrom log
    | some j => e :: j.acceptedFrom log

/-- The accepted entries of a log. -/
def accepted (log : List Entry) : List Entry := empty.acceptedFrom log

/-- Whether an entry is accepted is up to the entry; what the index holds already plays no part. -/
theorem isSome_insert? (i : Index) (e : Entry) : (i.insert? e).isSome = e.hasPlace := by
  cases e with
  | element d literal =>
    unfold insert? insertElement?
    rw [Option.isSome_map, Entry.hasPlace]
  | service d => rw [insert?, insertService?, Option.isSome_map, Entry.hasPlace]
  | parameter d => rw [insert?, insertParameter?, Option.isSome_map, Entry.hasPlace]
  | classInfo c => rfl
  | template t => rfl
  | route r => rfl
  | translation d => cases d <;> rfl
  | domainFile d => cases d <;> rfl

/-- Whether an entry is accepted is up to the entry: it is when it has a place, whatever the index
holds. -/
theorem acceptedFrom_eq_filter (i : Index) (log : List Entry) :
    i.acceptedFrom log = log.filter Entry.hasPlace := by
  induction log generalizing i with
  | nil => rfl
  | cons e log ih =>
    have hplace := isSome_insert? i e
    rw [acceptedFrom]
    cases hinsert : i.insert? e with
    | none =>
      rw [hinsert, Option.isSome_none] at hplace
      rw [List.filter_cons_of_neg (by rw [← hplace]; decide)]
      exact ih i
    | some j =>
      rw [hinsert, Option.isSome_some] at hplace
      rw [List.filter_cons_of_pos hplace.symm]
      exact congrArg (e :: ·) (ih j)

/-- **The accepted entries are those that have a place to go.** -/
theorem accepted_eq_filter (log : List Entry) : accepted log = log.filter Entry.hasPlace :=
  acceptedFrom_eq_filter empty log

/-- Accepted entries have a place. -/
theorem hasPlace_of_mem_accepted {log : List Entry} {e : Entry} (h : e ∈ accepted log) :
    e.hasPlace = true := by
  rw [accepted_eq_filter] at h
  exact (List.mem_filter.mp h).2

/-- Leaving out what is refused makes no difference to the index. -/
theorem foldl_insert_acceptedFrom (i : Index) (log : List Entry) :
    (i.acceptedFrom log).foldl insert i = log.foldl insert i := by
  -- both folds take the same step or, if the entry is refused, the left one takes none
  induction log generalizing i with
  | nil => rfl
  | cons e log ih =>
    rw [acceptedFrom, List.foldl_cons, insert]
    cases hinsert : i.insert? e with
    | none => exact ih i
    | some j =>
      rw [Option.getD_some, List.foldl_cons, insert, hinsert]
      exact ih j

/-- **Refused entries leave no trace.** -/
theorem ofEntries_accepted (log : List Entry) : ofEntries (accepted log) = ofEntries log :=
  foldl_insert_acceptedFrom empty log

/-! ## The keys of a table -/

section Keys

variable {β κ ν : Type} [DecidableEq κ] (table : Index → Table κ ν) {policy : β → Option ν → ν}
  {pick : Entry → Option β} {key : β → Option κ}

omit [DecidableEq κ] in
/-- The keys that a log writes are those of the values it gives. -/
theorem map_fst_writes (pick : Entry → Option β) (key : β → Option κ) (log : List Entry) :
    (log.filterMap (Entry.write? pick key)).map Prod.fst = (log.filterMap pick).filterMap key := by
  rw [List.map_filterMap, List.filterMap_filterMap]
  refine List.filterMap_congr fun e _ => ?_
  rw [Entry.write?, Option.map_bind]
  refine Option.bind_congr fun b _ => ?_
  cases hkey : key b <;> simp [hkey]

/-- The keys of a table are those that the log writes to it, each once, in the order of their first
entry. -/
theorem keys_table_ofEntries
    (hstep : ∀ i e, table (i.insert e) = (table i).record policy (e.write? pick key))
    (hempty : table empty = ∅) (log : List Entry) :
    (table (ofEntries log)).keys = keepFirst id ((log.filterMap pick).filterMap key) := by
  rw [table_ofEntries table hstep hempty, Table.keys_foldl_record, map_fst_writes,
    ← distinctBy_eq_keepFirst]
  rfl

/-- **A table has as many keys as the log gives different ones.** -/
theorem size_table_ofEntries
    (hstep : ∀ i e, table (i.insert e) = (table i).record policy (e.write? pick key))
    (hempty : table empty = ∅) (log : List Entry) :
    (table (ofEntries log)).size = ((log.filterMap pick).filterMap key).toFinset.card := by
  have hsize : (table (ofEntries log)).size = (table (ofEntries log)).keys.length := by
    rw [Table.keys, List.length_map, Table.size]
  rw [hsize, keys_table_ofEntries table hstep hempty, length_keepFirst, List.map_id]

end Keys

/-! ## Values under all keys together -/

/-- All declarations that the index has by signature. -/
theorem flatten_elements_ofEntries (log : List Entry) :
    (ofEntries log).elements.values.flatten
      = (keepFirst id ((log.filterMap Entry.declaration?).filterMap Declaration.signature?)).flatMap
          (ofEntries log).bySignature := by
  have hkeys : (ofEntries log).elements.keys
      = keepFirst id ((log.filterMap Entry.declaration?).filterMap Declaration.signature?) :=
    keys_table_ofEntries elements (fun i e => by rw [insert_eq]) rfl log
  have hnodup : (ofEntries log).elements.keys.Nodup := by
    rw [hkeys, ← List.map_id (keepFirst id _)]
    exact nodup_map_keepFirst id _
  rw [Table.flatten_values_eq hnodup, hkeys]
  rfl

/-- **No declaration is there twice**, be it under one signature or under two. -/
theorem nodup_flatten_elements (log : List Entry) :
    ((ofEntries log).elements.values.flatten.map Declaration.identity).Nodup := by
  rw [flatten_elements_ofEntries, List.map_flatMap, List.nodup_flatMap]
  refine ⟨fun signature _ => nodup_bySignature log signature, ?_⟩
  have hsignatures := nodup_map_keepFirst id
    ((log.filterMap Entry.declaration?).filterMap Declaration.signature?)
  rw [List.map_id] at hsignatures
  refine hsignatures.imp fun {a b} hne => ?_
  -- a declaration under both would have both signatures
  intro k ha hb
  obtain ⟨x, hx, rfl⟩ := List.mem_map.mp ha
  obtain ⟨y, hy, hidentity⟩ := List.mem_map.mp hb
  have hsame := Declaration.signature?_eq_of_identity hidentity
  rw [(filed_ofEntries log).bySignature hx, (filed_ofEntries log).bySignature hy] at hsame
  exact hne (Option.some.inj hsame).symm

/-- The identities of the indexed elements are those of the declarations that have a signature. -/
theorem mem_map_identity_elements {log : List Entry} {k : Declaration.Identity} :
    k ∈ (ofEntries log).elements.values.flatten.map Declaration.identity
      ↔ ∃ d ∈ log.filterMap Entry.declaration?, d.signature?.isSome = true ∧ d.identity = k := by
  rw [flatten_elements_ofEntries, List.map_flatMap, List.mem_flatMap]
  simp only [List.mem_map, exists_mem_bySignature_iff, mem_keepFirst_id, List.mem_filterMap]
  constructor
  · rintro ⟨signature, -, d, hd, hsignature, hk⟩
    exact ⟨d, hd, Option.isSome_of_eq_some hsignature, hk⟩
  · rintro ⟨d, hd, hsome, hk⟩
    obtain ⟨signature, hsignature⟩ := Option.isSome_iff_exists.mp hsome
    exact ⟨signature, ⟨d, hd, hsignature⟩, d, hd, hsignature, hk⟩

/-- **Declarations are counted once for each identity.** -/
theorem length_flatten_elements (log : List Entry) :
    (ofEntries log).elements.values.flatten.length
      = (((log.filterMap Entry.declaration?).filter fun d => d.signature?.isSome).map
          Declaration.identity).toFinset.card := by
  rw [← List.length_map Declaration.identity,
    ← List.toFinset_card_of_nodup (nodup_flatten_elements log)]
  congr 1
  ext k
  rw [List.mem_toFinset, List.mem_toFinset, mem_map_identity_elements]
  simp only [List.mem_map, List.mem_filter, and_assoc]

/-- Every translation that has a key is kept. -/
theorem length_flatten_translations (log : List Entry) :
    (ofEntries log).translations.values.flatten.length
      = ((log.filterMap Entry.translation?).filterMap Declaration.translationKey?).length := by
  rw [table_ofEntries translations (fun i e => by rw [insert_eq]) rfl,
    Table.length_flatten_values_foldl_record, ← map_fst_writes, List.length_map]
  exact Nat.zero_add _

/-! ## The counts -/

/-- What there is to count among entries that were accepted: different declarations, different keys
of services and parameters, different names of classes in lowercase normal form, different names of
templates and routes, and all translations. -/
def tally (es : List Entry) : Stats where
  elements := ((es.filterMap Entry.declaration?).map Declaration.identity).toFinset.card
  services := ((es.filterMap Entry.service?).filterMap
    fun d => ServiceKey.ofText? d.id).toFinset.card
  parameters := ((es.filterMap Entry.parameter?).filterMap
    fun d => ParameterKey.ofText? d.key).toFinset.card
  classes := ((es.filterMap Entry.class?).map fun c => ClassName.key c.name).toFinset.card
  templates := ((es.filterMap Entry.template?).map Template.name).toFinset.card
  routes := ((es.filterMap Entry.route?).map Route.name).toFinset.card
  translations := (es.filterMap Entry.translation?).length

/-- The order of the entries does not count. -/
theorem tally_perm {es fs : List Entry} (h : es.Perm fs) : tally es = tally fs := by
  simp only [tally]
  congr 1
  · rw [List.toFinset_eq_of_perm _ _ ((h.filterMap _).map _)]
  · rw [List.toFinset_eq_of_perm _ _ ((h.filterMap _).filterMap _)]
  · rw [List.toFinset_eq_of_perm _ _ ((h.filterMap _).filterMap _)]
  · rw [List.toFinset_eq_of_perm _ _ ((h.filterMap _).map _)]
  · rw [List.toFinset_eq_of_perm _ _ ((h.filterMap _).map _)]
  · rw [List.toFinset_eq_of_perm _ _ ((h.filterMap _).map _)]
  · exact (h.filterMap _).length_eq

/-- A declaration that was accepted has a signature. -/
theorem isSome_signature?_of_hasPlace {es : List Entry} (h : ∀ e ∈ es, e.hasPlace = true)
    {d : Declaration} (hd : d ∈ es.filterMap Entry.declaration?) : d.signature?.isSome = true := by
  obtain ⟨e, he, hpick⟩ := List.mem_filterMap.mp hd
  have hplace := h e he
  cases e <;> cases hpick
  · exact hplace
  · rfl

/-- A translation that was accepted has a key. -/
theorem isSome_translationKey?_of_hasPlace {es : List Entry} (h : ∀ e ∈ es, e.hasPlace = true)
    {d : Declaration} (hd : d ∈ es.filterMap Entry.translation?) :
    d.translationKey?.isSome = true := by
  obtain ⟨e, he, hpick⟩ := List.mem_filterMap.mp hd
  have hplace := h e he
  cases e <;> cases hpick
  exact hplace

/-- The counts of a log of which nothing is refused are its tally. -/
theorem stats_of_hasPlace {es : List Entry} (h : ∀ e ∈ es, e.hasPlace = true) :
    (ofEntries es).stats = tally es := by
  rw [stats, tally]
  congr 1
  -- the first and the last count values, of which none was refused; the others count keys
  · rw [length_flatten_elements, List.filter_eq_self.mpr]
    exact fun d hd => isSome_signature?_of_hasPlace h hd
  · exact size_table_ofEntries services (fun i e => by rw [insert_eq]) rfl es
  · exact size_table_ofEntries parameters (fun i e => by rw [insert_eq]) rfl es
  · rw [size_table_ofEntries classes (fun i e => by rw [insert_eq]) rfl,
      List.filterMap_eq_map']
  · rw [size_table_ofEntries templates (fun i e => by rw [insert_eq]) rfl,
      List.filterMap_eq_map']
  · rw [size_table_ofEntries routes (fun i e => by rw [insert_eq]) rfl,
      List.filterMap_eq_map']
  · rw [length_flatten_translations, List.length_filterMap_eq_countP, List.countP_eq_length]
    exact fun d hd => isSome_translationKey?_of_hasPlace h hd

/-- **The counts of an index are the tally of its accepted entries.** -/
theorem stats_ofEntries (log : List Entry) : (ofEntries log).stats = tally (accepted log) := by
  rw [← ofEntries_accepted]
  exact stats_of_hasPlace fun e he => hasPlace_of_mem_accepted he

/-- **The counts of an index count what was accepted**, each by its own notion of sameness. Accepted
is what has a place to go, whatever the index holds already, and the order of the log does not show
in the counts. -/
theorem stats_count_accepted (log : List Entry) :
    accepted log = log.filter Entry.hasPlace
      ∧ (ofEntries log).stats = tally (log.filter Entry.hasPlace)
      ∧ ∀ other, log.Perm other → (ofEntries other).stats = (ofEntries log).stats := by
  have hstats : ∀ log : List Entry, (ofEntries log).stats = tally (log.filter Entry.hasPlace) := by
    intro log
    rw [stats_ofEntries, accepted_eq_filter]
  refine ⟨accepted_eq_filter log, hstats log, fun other h => ?_⟩
  rw [hstats, hstats, tally_perm (h.filter Entry.hasPlace)]

/-- One class in two spellings and in one place, its declaration once more, and a service without a
key; then a service under two spellings of its id, a parameter, two versions of a template, a route,
a translation that is told twice, and a file of its domain. -/
def clockLog : List Entry :=
  [.classInfo ⟨"\\App\\Clock", ⟨⟨"src/Clock.php"⟩, none⟩, none, none⟩,
    .service ⟨"'@'", none, none, none⟩,
    .element (.classDef "App\\Clock" ⟨⟨"src//Clock.php"⟩, none⟩) none,
    .classInfo ⟨"app\\clock", ⟨⟨"src/Clock.php"⟩, none⟩, none, none⟩,
    .service ⟨"clock", some "App\\Clock", none, none⟩, .service ⟨"@Clock", none, none, none⟩,
    .parameter ⟨"%zone%", some "UTC", none⟩,
    .template ⟨"clock.html", ⟨⟨"clock.html"⟩, none⟩, []⟩,
    .template ⟨"clock.html", ⟨⟨"old/clock.html"⟩, none⟩, []⟩,
    .route ⟨"now", none, none⟩,
    .translation (.translationEntry "messages" "now" ⟨⟨"messages.yaml"⟩, none⟩),
    .translation (.translationEntry "messages" "now" ⟨⟨"messages.yaml"⟩, none⟩),
    .domainFile (.translationDomain "messages" ⟨⟨"messages.yaml"⟩, none⟩)]

/-- Names in two cases are one class and two declarations, two ids with one key are one service, and
a translation counts as often as it is told, whichever comes first. -/
theorem stats_count_accepted_clock :
    (ofEntries clockLog).stats = ⟨2, 1, 1, 1, 1, 1, 2⟩
      ∧ (ofEntries clockLog.reverse).stats = ⟨2, 1, 1, 1, 1, 1, 2⟩ := by
  obtain ⟨-, hstats, horder⟩ := stats_count_accepted clockLog
  have htally : tally (clockLog.filter Entry.hasPlace) = ⟨2, 1, 1, 1, 1, 1, 2⟩ := by
    decide +kernel
  rw [htally] at hstats
  exact ⟨hstats, (horder _ (List.reverse_perm clockLog).symm).trans hstats⟩

/-! ## Emptiness -/

/-- Every look-up answers with nothing, whatever is asked for. -/
structure FindsNothing (i : Index) : Prop where
  bySignature : ∀ signature, i.bySignature signature = []
  servicesAt : ∀ key, i.servicesAt key = []
  parametersAt : ∀ key, i.parametersAt key = []
  class? : ∀ name, i.class? name = none
  template? : ∀ name, i.template? name = none
  route? : ∀ name, i.route? name = none
  translationsOf : ∀ domain key, i.translationsOf domain key = []
  filesOf : ∀ domain, i.filesOf domain = []

/-- An empty index answers no question. -/
theorem findsNothing_empty : empty.FindsNothing where
  bySignature := fun _ => rfl
  servicesAt := fun _ => rfl
  parametersAt := fun _ => rfl
  class? := fun _ => rfl
  template? := fun _ => rfl
  route? := fun _ => rfl
  translationsOf := fun _ _ => rfl
  filesOf := fun _ => rfl

/-- A test that nothing passes of all that the log gives fails for what one of its entries gives. -/
theorem not_of_filter_eq_nil {β : Type} {pick : Entry → Option β} {log : List Entry} {p : β → Bool}
    (hnone : (log.filterMap pick).filter p = []) {e : Entry} {b : β} (he : e ∈ log)
    (hpick : pick e = some b) : ¬ p b = true :=
  List.filter_eq_nil_iff.mp hnone b (List.mem_filterMap.mpr ⟨e, he, hpick⟩)

/-- **What has a place is found there.** -/
theorem not_findsNothing_of_mem {log : List Entry} {e : Entry} (he : e ∈ log)
    (hplace : e.hasPlace = true) : ¬ (ofEntries log).FindsNothing := by
  intro h
  rw [Entry.hasPlace.eq_def] at hplace
  -- each kind of entry has its own way of being asked for
  cases e with
  | element d literal =>
    obtain ⟨signature, hsignature⟩ := Option.isSome_iff_exists.mp hplace
    have hnone := h.bySignature signature
    rw [bySignature_ofEntries, keepFirst_eq_nil_iff] at hnone
    exact not_of_filter_eq_nil hnone he rfl (decide_eq_true hsignature)
  | service d =>
    obtain ⟨key, hkey⟩ := Option.isSome_iff_exists.mp hplace
    have hnone := h.servicesAt key
    rw [servicesAt_ofEntries, List.reverse_eq_nil_iff] at hnone
    exact not_of_filter_eq_nil hnone he rfl (decide_eq_true hkey)
  | parameter d =>
    obtain ⟨key, hkey⟩ := Option.isSome_iff_exists.mp hplace
    have hnone := h.parametersAt key
    rw [parametersAt_ofEntries, List.reverse_eq_nil_iff] at hnone
    exact not_of_filter_eq_nil hnone he rfl (decide_eq_true hkey)
  | classInfo c =>
    have hnone := h.class? c.name
    rw [class?_ofEntries, List.getLast?_eq_none_iff] at hnone
    exact not_of_filter_eq_nil hnone he rfl (decide_eq_true rfl)
  | template t =>
    have hnone := h.template? t.name
    rw [template?_ofEntries, List.getLast?_eq_none_iff] at hnone
    exact not_of_filter_eq_nil hnone he rfl (decide_eq_true rfl)
  | route r =>
    have hnone := h.route? r.name
    rw [route?_ofEntries, List.getLast?_eq_none_iff] at hnone
    exact not_of_filter_eq_nil hnone he rfl (decide_eq_true rfl)
  | translation d =>
    obtain ⟨⟨domain, key⟩, hkey⟩ := Option.isSome_iff_exists.mp hplace
    have hnone := h.translationsOf domain key
    rw [translationsOf_ofEntries] at hnone
    exact not_of_filter_eq_nil hnone he rfl (decide_eq_true hkey)
  | domainFile d =>
    obtain ⟨domain, hdomain⟩ := Option.isSome_iff_exists.mp hplace
    have hnone := h.filesOf domain
    rw [filesOf_ofEntries] at hnone
    exact not_of_filter_eq_nil hnone he rfl (decide_eq_true hdomain)

/-- Nothing is found exactly when nothing was accepted. -/
theorem findsNothing_ofEntries_iff (log : List Entry) :
    (ofEntries log).FindsNothing ↔ accepted log = [] := by
  rw [← ofEntries_accepted]
  constructor
  · intro h
    refine List.eq_nil_iff_forall_not_mem.mpr fun e he => ?_
    exact not_findsNothing_of_mem he (hasPlace_of_mem_accepted he) h
  · intro h
    rw [h]
    exact findsNothing_empty

/-- The files of domains are what the tally leaves out. -/
theorem tally_eq_zero_iff {es : List Entry} (h : ∀ e ∈ es, e.hasPlace = true) :
    tally es = ⟨0, 0, 0, 0, 0, 0, 0⟩ ↔ ∀ e ∈ es, ∃ d, e = .domainFile d := by
  constructor
  · intro hzero e he
    simp only [tally, Stats.mk.injEq, Finset.card_eq_zero, List.toFinset_eq_empty_iff,
      List.length_eq_zero_iff, List.map_eq_nil_iff, List.filterMap_eq_nil_iff] at hzero
    obtain ⟨helements, hservices, hparameters, hclasses, htemplates, hroutes, htranslations⟩ :=
      hzero
    have hplace := h e he
    rw [Entry.hasPlace.eq_def] at hplace
    -- whatever else `e` gives would have been counted
    cases e with
    | element d literal => exact absurd (helements _ he) (Option.some_ne_none d)
    | service d =>
      have hkey := hservices d (List.mem_filterMap.mpr ⟨_, he, rfl⟩)
      exact absurd hkey (Option.isSome_iff_ne_none.mp hplace)
    | parameter d =>
      have hkey := hparameters d (List.mem_filterMap.mpr ⟨_, he, rfl⟩)
      exact absurd hkey (Option.isSome_iff_ne_none.mp hplace)
    | classInfo c => exact absurd (hclasses _ he) (Option.some_ne_none c)
    | template t => exact absurd (htemplates _ he) (Option.some_ne_none t)
    | route r => exact absurd (hroutes _ he) (Option.some_ne_none r)
    | translation d => exact absurd (htranslations _ he) (Option.some_ne_none d)
    | domainFile d => exact ⟨d, rfl⟩
  · intro hfiles
    have hnone : ∀ {β : Type} (pick : Entry → Option β), (∀ d, pick (.domainFile d) = none) →
        es.filterMap pick = [] := by
      intro β pick hpick
      refine List.filterMap_eq_nil_iff.mpr fun e he => ?_
      obtain ⟨d, rfl⟩ := hfiles e he
      exact hpick d
    rw [tally, hnone Entry.declaration? fun _ => rfl,
      hnone Entry.service? fun _ => rfl, hnone Entry.parameter? fun _ => rfl,
      hnone Entry.class? fun _ => rfl, hnone Entry.template? fun _ => rfl,
      hnone Entry.route? fun _ => rfl, hnone Entry.translation? fun _ => rfl]
    rfl

/-- An index counts as empty exactly when nothing but files of domains was accepted. -/
theorem isEmpty_ofEntries_iff (log : List Entry) :
    (ofEntries log).isEmpty = true ↔ ∀ e ∈ accepted log, ∃ d, e = .domainFile d := by
  rw [isEmpty, decide_eq_true_eq, stats_ofEntries]
  exact tally_eq_zero_iff fun e he => hasPlace_of_mem_accepted he

/-- **When empty means that nothing is found.** Nothing is found exactly when nothing was accepted.
An index counts as empty when nothing but files of translation domains was accepted. The two agree
for every log but those of which such files are all that was accepted. -/
theorem isEmpty_iff_findsNothing_iff (log : List Entry) :
    ((ofEntries log).FindsNothing ↔ accepted log = [])
      ∧ ((ofEntries log).isEmpty = true ↔ ∀ e ∈ accepted log, ∃ d, e = .domainFile d)
      ∧ (((ofEntries log).isEmpty = true ↔ (ofEntries log).FindsNothing)
        ↔ accepted log = [] ∨ ∃ e ∈ accepted log, ∀ d, e ≠ .domainFile d) := by
  refine ⟨findsNothing_ofEntries_iff log, isEmpty_ofEntries_iff log, ?_⟩
  rw [isEmpty_ofEntries_iff, findsNothing_ofEntries_iff]
  constructor
  · intro h
    by_cases hfiles : ∀ e ∈ accepted log, ∃ d, e = .domainFile d
    · exact Or.inl (h.mp hfiles)
    · push Not at hfiles
      exact Or.inr hfiles
  · rintro (hnil | ⟨e, he, hother⟩)
    · simp [hnil]
    · refine iff_of_false (fun hfiles => ?_) (List.ne_nil_of_mem he)
      obtain ⟨d, hd⟩ := hfiles e he
      exact hother d hd

/-- The index that was told of one file of a translation domain. -/
def oneDomainFile : Index :=
  .ofEntries [.domainFile (.translationDomain "admin" ⟨⟨"translations/admin.yaml"⟩, none⟩)]

/-- It counts as empty, and the file is found. -/
theorem oneDomainFile_counts_as_empty :
    oneDomainFile.isEmpty = true
      ∧ oneDomainFile.filesOf "admin"
        = [.translationDomain "admin" ⟨⟨"translations/admin.yaml"⟩, none⟩]
      ∧ ¬ (oneDomainFile.isEmpty = true ↔ oneDomainFile.FindsNothing) := by
  have hempty : oneDomainFile.isEmpty = true := by decide +kernel
  have hfiles : oneDomainFile.filesOf "admin"
      = [.translationDomain "admin" ⟨⟨"translations/admin.yaml"⟩, none⟩] := by decide +kernel
  refine ⟨hempty, hfiles, fun h => ?_⟩
  rw [(h.mp hempty).filesOf] at hfiles
  cases hfiles

end Index

end Signpost
