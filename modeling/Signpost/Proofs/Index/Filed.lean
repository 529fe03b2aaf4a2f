/-
`Proofs/Index/Filed.lean` -- everything stands where it belongs.

An index hands out what it holds under a key and does not look at it again. That the answer belongs
under that key is an invariant of the tables: `Filed` says it for every table that go-to reads, and
`filed_ofEntries` proves it for every log. Signatures carry the most weight, since four kinds of
declarations share one table. The letter after the first `#` tells the kinds apart, so what stands
under the signature of a method is a method.
-/
import Signpost.Signature.Resolve
import Signpost.Proofs.Declaration.Signature
import Signpost.Proofs.Index.Log

set_option autoImplicit false

namespace Signpost

/-! ## Signatures tell kinds apart -/

/-- What has the signature of a method is a method. -/
theorem Declaration.kind_eq_method {x : Declaration} {owner name : String}
    (h : x.signature? = some (methodSignature owner name)) : x.kind = .method := by
  have hmethod : (method owner name ⟨⟨""⟩, none⟩).signature? = some (methodSignature owner name) := rfl
  exact kind_eq_of_signature? h hmethod

/-- The signature that kind and names give; the place plays no part in it. -/
def Declaration.signatureOf? : Kind → List String → Option String
  | .classDef, [name] => some (classSignature name)
  | .method, [owner, name] => some (methodSignature owner name)
  | .field, [owner, name] => some (fieldSignature owner name)
  | .constant, [owner, name] => some (constantSignature owner name)
  | _, _ => none

theorem Declaration.signature?_eq (x : Declaration) :
    x.signature? = signatureOf? x.kind x.names := by
  cases x <;> rfl

/-- Identical declarations have one signature. -/
theorem Declaration.signature?_eq_of_identity {x y : Declaration} (h : x.identity = y.identity) :
    x.signature? = y.signature? := by
  obtain ⟨hkind, hnames, -⟩ := Identity.mk.inj h
  rw [signature?_eq, signature?_eq, hkind, hnames]

namespace Lookups

/-- What is answered under a key belongs there. -/
structure Filed (i : Lookups) : Prop where
  bySignature : ∀ {signature x}, x ∈ i.bySignature signature → x.signature? = some signature
  parametersAt : ∀ {key x}, x ∈ i.parametersAt key → ParameterKey.ofText? x.key = some key
  template? : ∀ {name t}, i.template? name = some t → t.name = name
  allTemplates : ∀ {t}, t ∈ i.allTemplates → i.template? t.name = some t
  translationsOf : ∀ {domain key x}, x ∈ i.translationsOf domain key →
    x.translationKey? = some (domain, key)
  filesOf : ∀ {domain x}, x ∈ i.filesOf domain → x.domain? = some domain

/-- A signature that is no union is looked up as it is. -/
theorem byType_eq_bySignature (i : Lookups) {signature : String}
    (h : Signature.unionMark ∉ signature.toList) :
    i.byType signature = i.bySignature signature := by
  rw [byType, if_neg]
  rw [List.contains_iff_mem]
  exact h

end Lookups

namespace Index

/-- **Every log leaves an index in which everything is filed.** -/
theorem filed_ofEntries (log : List Entry) : (ofEntries log).lookups.Filed where
  bySignature := by
    intro signature x hx
    rw [bySignature_lookups, bySignature_ofEntries] at hx
    exact of_decide_eq_true (List.mem_filter.mp ((keepFirst_sublist _ _).subset hx)).2
  parametersAt := by
    intro key x hx
    rw [parametersAt_lookups, parametersAt_ofEntries, List.mem_reverse] at hx
    exact of_decide_eq_true (List.mem_filter.mp hx).2
  template? := by
    intro name t ht
    rw [template?_lookups, template?_ofEntries] at ht
    exact of_decide_eq_true (List.mem_filter.mp (List.mem_of_getLast? ht)).2
  allTemplates := (mem_allTemplates (keyedBy_templates log)).mp
  translationsOf := by
    intro domain key x hx
    rw [translationsOf_lookups, translationsOf_ofEntries] at hx
    exact of_decide_eq_true (List.mem_filter.mp hx).2
  filesOf := by
    intro domain x hx
    rw [filesOf_lookups, filesOf_ofEntries] at hx
    exact of_decide_eq_true (List.mem_filter.mp hx).2

/-- What is found by signature, up to identity, is what was told with that signature. -/
theorem exists_mem_bySignature_iff {log : List Entry} {signature : String}
    {k : Declaration.Identity} :
    (∃ x ∈ (ofEntries log).bySignature signature, x.identity = k)
      ↔ ∃ d ∈ log.filterMap Entry.declaration?, d.signature? = some signature ∧ d.identity = k := by
  rw [bySignature_ofEntries, ← holdsKey_eq_true_iff, holdsKey_keepFirst, holdsKey_eq_true_iff]
  simp only [List.mem_filter, decide_eq_true_eq, and_assoc]

/-- No signature has a declaration twice. -/
theorem nodup_bySignature (log : List Entry) (signature : String) :
    (((ofEntries log).bySignature signature).map Declaration.identity).Nodup := by
  rw [bySignature_ofEntries]
  exact nodup_map_keepFirst _ _

/-- A class that is found was told to the index, and is found under its own name. -/
theorem told_of_class? {log : List Entry} {name : String} {c : ClassInfo}
    (h : (ofEntries log).class? name = some c) :
    Entry.classInfo c ∈ log ∧ (ofEntries log).class? c.name = some c := by
  have hlast := h
  rw [class?_ofEntries] at hlast
  obtain ⟨hmem, hkey⟩ := List.mem_filter.mp (List.mem_of_getLast? hlast)
  refine ⟨?_, ?_⟩
  · obtain ⟨e, he, hclass⟩ := List.mem_filterMap.mp hmem
    cases e <;> cases hclass
    exact he
  · rw [class?, of_decide_eq_true hkey]
    exact h

end Index

end Signpost
