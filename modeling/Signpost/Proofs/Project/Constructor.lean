/-
`Proofs/Project/Constructor.lean` -- the constructor that is shown.

A class without a constructor of its own is shown with that of the nearest ancestor that has one.
`ancestor?` counts the generations, without a bound and whatever they hold, and `NearestConstructor`
says which of them declares the constructor at hand: the first one that declares any. The search
with a bound finds just the nearest constructor within that many generations
(`constructor?_eq_some_iff`).

A line of ancestors may come back to where it was. All that follows a class is decided by the class,
so behind the return the line repeats itself and brings no constructor that was not there before
(`NearestConstructor.not_of_return`). Ancestors are classes of the index, so a line with more of
them than the index has classes does come back, and a bound of that size already finds whatever
there is to find.

Specification: B.6, item 9.
-/
import Signpost.Project.Overlay
import Signpost.Proofs.Collection

set_option autoImplicit false

namespace Signpost

namespace Lookups

variable {i : Lookups} {index : Index} {c d : ClassInfo} {arguments : List ArgumentInfo}

/-! ## Lines of ancestors -/

/-- The ancestor of a class so many generations up, as long as the index knows each parent on the
way. The class itself need not be in the index. -/
def ancestor? (i : Lookups) (c : ClassInfo) : Nat → Option ClassInfo
  | 0 => some c
  | k + 1 => (i.ancestor? c k).bind fun d => d.parent.bind i.class?

/-- Going up in two stages. -/
theorem ancestor?_add (j k : Nat) :
    i.ancestor? c (j + k) = (i.ancestor? c j).bind fun d => i.ancestor? d k := by
  induction k with
  | zero => exact (Option.bind_fun_some _).symm
  | succ k ih =>
    rw [← Nat.add_assoc, ancestor?, ih, Option.bind_assoc]
    rfl

/-- The first stage may be the step to the parent. -/
theorem ancestor?_succ (k : Nat) :
    i.ancestor? c (k + 1) = (c.parent.bind i.class?).bind fun d => i.ancestor? d k := by
  rw [Nat.add_comm, ancestor?_add]
  rfl

/-- A line that goes far up has everyone on the way. -/
theorem exists_ancestor?_of_le {j k : Nat} (h : i.ancestor? c k = some d) (hjk : j ≤ k) :
    ∃ e, i.ancestor? c j = some e := by
  rw [← Nat.add_sub_cancel' hjk, ancestor?_add, Option.bind_eq_some_iff] at h
  obtain ⟨e, he, -⟩ := h
  exact ⟨e, he⟩

/-- Everyone but the first is a class of the index. -/
theorem mem_values_of_ancestor? {k : Nat} (h : index.lookups.ancestor? c (k + 1) = some d) :
    d ∈ index.classes.values := by
  rw [ancestor?, Option.bind_eq_some_iff] at h
  obtain ⟨e, -, he⟩ := h
  obtain ⟨name, -, hname⟩ := Option.bind_eq_some_iff.mp he
  rw [Index.class?_lookups, Index.class?] at hname
  exact Table.mem_values_of_find? hname

/-! ## The nearest constructor -/

/-- The ancestor so many generations up declares a constructor with the arguments, and nobody before
it declares any. -/
structure NearestConstructor (i : Lookups) (c : ClassInfo) (k : Nat) (arguments : List ArgumentInfo) :
    Prop where
  declared : ∃ d, i.ancestor? c k = some d ∧ d.constructor = some arguments
  nearest : ∀ j < k, ∀ e, i.ancestor? c j = some e → e.constructor = none

theorem nearestConstructor_zero_iff :
    i.NearestConstructor c 0 arguments ↔ c.constructor = some arguments := by
  constructor
  · rintro ⟨⟨d, hd, hdeclared⟩, -⟩
    obtain rfl : c = d := Option.some.inj hd
    exact hdeclared
  · intro hdeclared
    refine ⟨⟨c, rfl, hdeclared⟩, ?_⟩
    intro j hj
    omega

/-- Seen from the parent, everyone is one generation nearer. -/
theorem nearestConstructor_succ_iff {k : Nat} :
    i.NearestConstructor c (k + 1) arguments ↔ c.constructor = none
      ∧ ∃ parent, c.parent.bind i.class? = some parent
        ∧ i.NearestConstructor parent k arguments := by
  constructor
  · rintro ⟨⟨d, hd, hdeclared⟩, hnearest⟩
    rw [ancestor?_succ, Option.bind_eq_some_iff] at hd
    obtain ⟨parent, hparent, hd⟩ := hd
    refine ⟨hnearest 0 (Nat.succ_pos k) c rfl, parent, hparent, ⟨d, hd, hdeclared⟩, ?_⟩
    intro j hj e he
    apply hnearest (j + 1) (by omega) e
    rw [ancestor?_succ, hparent, Option.bind_some]
    exact he
  · rintro ⟨hnone, parent, hparent, ⟨d, hd, hdeclared⟩, hnearest⟩
    refine ⟨⟨d, ?_, hdeclared⟩, ?_⟩
    · rw [ancestor?_succ, hparent, Option.bind_some]
      exact hd
    · intro j hj e he
      cases j with
      | zero =>
        obtain rfl : c = e := Option.some.inj he
        exact hnone
      | succ j =>
        rw [ancestor?_succ, hparent, Option.bind_some] at he
        exact hnearest j (by omega) e he

/-- **The bounded search, characterised**: it finds the nearest constructor within the bound. -/
theorem constructor?_eq_some_iff {n : Nat} :
    i.constructor? n c = some arguments ↔ ∃ k ≤ n, i.NearestConstructor c k arguments := by
  induction n generalizing c with
  | zero =>
    have hzero : i.constructor? 0 c = c.constructor := by
      unfold constructor?
      cases c.constructor <;> rfl
    rw [hzero, ← nearestConstructor_zero_iff (i := i)]
    constructor
    · intro h
      exact ⟨0, Nat.le_refl 0, h⟩
    · rintro ⟨k, hk, h⟩
      obtain rfl : k = 0 := by omega
      exact h
  | succ n ih =>
    cases hown : c.constructor with
    | some own =>
      -- an own constructor is shown whatever the bound, and hides all others
      have hfound : i.constructor? (n + 1) c = some own := by
        unfold constructor?
        rw [hown]
      rw [hfound, ← hown, ← nearestConstructor_zero_iff (i := i)]
      constructor
      · intro h
        exact ⟨0, Nat.zero_le _, h⟩
      · rintro ⟨k, -, h⟩
        cases k with
        | zero => exact h
        | succ k =>
          rw [(nearestConstructor_succ_iff.mp h).1] at hown
          cases hown
    | none =>
      have hparent : i.constructor? (n + 1) c
          = (c.parent.bind i.class?).bind (i.constructor? n) := by
        rw [constructor?, hown]
      rw [hparent, Option.bind_eq_some_iff]
      constructor
      · rintro ⟨parent, hclass, hfound⟩
        obtain ⟨k, hk, hnearest⟩ := ih.mp hfound
        refine ⟨k + 1, by omega, nearestConstructor_succ_iff.mpr ⟨hown, parent, hclass, hnearest⟩⟩
      · rintro ⟨k, hk, h⟩
        cases k with
        | zero =>
          rw [nearestConstructor_zero_iff.mp h] at hown
          cases hown
        | succ k =>
          obtain ⟨-, parent, hclass, hnearest⟩ := nearestConstructor_succ_iff.mp h
          exact ⟨parent, hclass, ih.mpr ⟨k, by omega, hnearest⟩⟩

theorem constructor?_eq_none_iff {n : Nat} :
    i.constructor? n c = none ↔ ∀ k ≤ n, ∀ arguments, ¬ i.NearestConstructor c k arguments := by
  rw [Option.eq_none_iff_forall_ne_some]
  simp only [ne_eq, constructor?_eq_some_iff, not_exists, not_and]
  exact ⟨fun h k hk arguments => h arguments k hk, fun h arguments k hk => h k hk arguments⟩

/-! ## Lines that come back -/

/-- **Behind a return there is nothing new.** Whoever stands there has stood nearer before. -/
theorem NearestConstructor.not_of_return {j k l : Nat} (h : i.NearestConstructor c l arguments)
    (hfirst : i.ancestor? c j = some d) (hagain : i.ancestor? c k = some d) (hjk : j < k) :
    ¬ k ≤ l := by
  intro hkl
  obtain ⟨e, he, hdeclared⟩ := h.declared
  have hnearer : i.ancestor? c (j + (l - k)) = some e := by
    rw [← Nat.add_sub_cancel' hkl, ancestor?_add, hagain, Option.bind_some] at he
    rw [ancestor?_add, hfirst, Option.bind_some]
    exact he
  rw [h.nearest (j + (l - k)) (by omega) e hnearer] at hdeclared
  cases hdeclared

/-- The nearest constructor is no further away than there are classes. -/
theorem NearestConstructor.le_classes {k : Nat}
    (h : index.lookups.NearestConstructor c k arguments) : k ≤ index.stats.classes := by
  by_contra hfar
  have hlength : index.classes.values.length = index.stats.classes := by
    unfold Table.values
    exact List.length_map _
  obtain ⟨d, hd, -⟩ := h.declared
  -- the class itself may be outside the index, so the count starts with its parent
  have hvisits : ∀ j ≤ index.classes.values.length,
      ∃ e ∈ index.classes.values, index.lookups.ancestor? c (j + 1) = some e := by
    intro j hj
    obtain ⟨e, he⟩ := exists_ancestor?_of_le hd (by omega : j + 1 ≤ k)
    exact ⟨e, mem_values_of_ancestor? he, he⟩
  obtain ⟨first, again, e, hlt, hagain, hfirst, he⟩ := exists_return hvisits
  exact h.not_of_return hfirst he (by omega) (by omega)

theorem constructor?_eq_of_classes_le {n m : Nat} (hn : index.stats.classes ≤ n)
    (hm : index.stats.classes ≤ m) :
    index.lookups.constructor? n c = index.lookups.constructor? m c := by
  apply Option.ext
  intro arguments
  rw [constructor?_eq_some_iff, constructor?_eq_some_iff]
  constructor
  · rintro ⟨k, -, h⟩
    exact ⟨k, Nat.le_trans h.le_classes hm, h⟩
  · rintro ⟨k, -, h⟩
    exact ⟨k, Nat.le_trans h.le_classes hn, h⟩

/-! ## What is shown -/

theorem constructorSummary_of_some {n : Nat} (h : i.constructor? n c = some arguments) :
    i.constructorSummary c n = ClassName.short c.name ++ "("
      ++ ", ".intercalate (arguments.map ArgumentInfo.display) ++ ")" := by
  rw [constructorSummary, h, Option.getD_some]

theorem constructorSummary_of_none {n : Nat} (h : i.constructor? n c = none) :
    i.constructorSummary c n = ClassName.short c.name ++ "()" := by
  rw [constructorSummary, h, Option.getD_none, List.map_nil, String.append_assoc,
    String.append_assoc]
  rfl

end Lookups

namespace Index

/-- **The nearest constructor within the bound is shown.** It is that of the first ancestor that
declares one, the class itself being the ancestor of generation 0, behind the short name of the class
that was asked for; where none is within the bound, and so wherever a line without constructors comes
back to where it was, the list of arguments is empty. Bounds that are no smaller than the number of
classes show the same. -/
theorem nearest_constructor_is_shown (i : Index) (c : ClassInfo) :
    (∀ n k arguments, k ≤ n → i.lookups.NearestConstructor c k arguments →
      i.lookups.constructorSummary c n = ClassName.short c.name ++ "("
        ++ ", ".intercalate (arguments.map ArgumentInfo.display) ++ ")")
    ∧ (∀ n, (∀ k ≤ n, ∀ d, i.lookups.ancestor? c k = some d → d.constructor = none) →
      i.lookups.constructorSummary c n = ClassName.short c.name ++ "()")
    ∧ (∀ j k d, j < k → i.lookups.ancestor? c j = some d → i.lookups.ancestor? c k = some d →
      (∀ l < k, ∀ e, i.lookups.ancestor? c l = some e → e.constructor = none) →
      ∀ n, i.lookups.constructorSummary c n = ClassName.short c.name ++ "()")
    ∧ ∀ n m, i.stats.classes ≤ n → i.stats.classes ≤ m →
      i.lookups.constructorSummary c n = i.lookups.constructorSummary c m := by
  refine ⟨?_, ?_, ?_, ?_⟩
  · intro n k arguments hk hnearest
    apply Lookups.constructorSummary_of_some
    exact Lookups.constructor?_eq_some_iff.mpr ⟨k, hk, hnearest⟩
  · intro n hnone
    apply Lookups.constructorSummary_of_none
    rw [Lookups.constructor?_eq_none_iff]
    intro k hk arguments h
    obtain ⟨d, hd, hdeclared⟩ := h.declared
    rw [hnone k hk d hd] at hdeclared
    cases hdeclared
  · intro j k d hjk hfirst hagain hnone n
    apply Lookups.constructorSummary_of_none
    rw [Lookups.constructor?_eq_none_iff]
    intro l _ arguments h
    obtain ⟨e, he, hdeclared⟩ := h.declared
    -- a constructor would stand before the return, where there is none
    have hl : l < k := Nat.lt_of_not_le (h.not_of_return hfirst hagain hjk)
    rw [hnone l hl e he] at hdeclared
    cases hdeclared
  · intro n m hn hm
    unfold Lookups.constructorSummary
    rw [Lookups.constructor?_eq_of_classes_le hn hm]

/-- A class outside the index, two generations below a constructor and with a name of another case
for its parent, and two classes that are each other's parent. One generation is not enough for the
first, and two are as good as any number that counts all classes; the circle shows no arguments. -/
theorem nearest_constructor_is_shown_inherited :
    let source : Location := ⟨⟨"src/X.php"⟩, none⟩
    let i : Index := .ofEntries [
      .classInfo ⟨"App\\Base", source, none, some [⟨"clock", some "Clock", none⟩]⟩,
      .classInfo ⟨"App\\Middle", source, some "App\\Base", none⟩,
      .classInfo ⟨"A", source, some "B", none⟩, .classInfo ⟨"B", source, some "\\a", none⟩]
    let leaf : ClassInfo := ⟨"App\\Leaf", source, some "\\app\\middle", none⟩
    i.lookups.constructorSummary leaf 2 = "Leaf(Clock $clock)" ∧ i.lookups.constructorSummary leaf 1 = "Leaf()"
      ∧ (∀ more, i.lookups.constructorSummary leaf (4 + more) = i.lookups.constructorSummary leaf 4)
      ∧ ∀ n, i.lookups.constructorSummary ⟨"A", source, some "B", none⟩ n = "A()" := by
  intro source i leaf
  have hmiddle : i.lookups.ancestor? leaf 1 = some ⟨"App\\Middle", source, some "App\\Base", none⟩ := by
    decide +kernel
  have hbase : i.lookups.ancestor? leaf 2
      = some ⟨"App\\Base", source, none, some [⟨"clock", some "Clock", none⟩]⟩ := by
    decide +kernel
  have hnone : ∀ k ≤ 1, ∀ d, i.lookups.ancestor? leaf k = some d → d.constructor = none := by
    intro k hk d hd
    obtain rfl | rfl : k = 0 ∨ k = 1 := by omega
    · rw [← Option.some.inj hd]
    · rw [hmiddle] at hd
      rw [← Option.some.inj hd]
  have hclasses : i.stats.classes = 4 := by decide +kernel
  have hb : i.lookups.ancestor? ⟨"A", source, some "B", none⟩ 1 = some ⟨"B", source, some "\\a", none⟩ := by
    decide +kernel
  have hback : i.lookups.ancestor? ⟨"A", source, some "B", none⟩ 2 = some ⟨"A", source, some "B", none⟩ := by
    decide +kernel
  refine ⟨?_, ?_, ?_, ?_⟩
  · have hnearest : i.lookups.NearestConstructor leaf 2 [⟨"clock", some "Clock", none⟩] :=
      ⟨⟨_, hbase, rfl⟩, fun j hj => hnone j (by omega)⟩
    refine ((nearest_constructor_is_shown i leaf).1 2 2 _ (Nat.le_refl 2) hnearest).trans ?_
    decide +kernel
  · refine ((nearest_constructor_is_shown i leaf).2.1 1 hnone).trans ?_
    decide +kernel
  · intro more
    exact (nearest_constructor_is_shown i leaf).2.2.2 (4 + more) 4 (by omega) (by omega)
  · intro n
    refine ((nearest_constructor_is_shown i _).2.2.1 0 2 _ (by decide) rfl hback ?_ n).trans ?_
    · intro l hl e he
      obtain rfl | rfl : l = 0 ∨ l = 1 := by omega
      · rw [← Option.some.inj he]
      · rw [hb] at he
        rw [← Option.some.inj he]
    · decide +kernel

end Index

end Signpost
