/-
`Proofs/Collection.lean` -- laws of the collections.

Two collections stand behind every answer of the index. A list without repetitions is built one
element at a time, and `distinctBy_eq_keepFirst` says what comes out: each element that is the first
of its key, in order. Such lists can be merged again without loss (`keepFirst_append`), so it does
not matter whether the elements of several lists come one by one or list by list. A keyed table is
written one entry at a time, and what it holds under a key is decided by the writes under that key
alone, in order, whatever was written in between under others. That is one lemma,
`find?_foldl_record`, for every table and every policy on repeated keys; the policies differ only in
the function that is folded. Which keys there are is the same for all policies, `keys_foldl_record`.

Every walk through a document is a chain of partial steps with a bound on its length. `FullChain` is
the walk without the bound: all elements up to one from which there is no step. Such a walk visits
nothing twice, and a bounded chain with room for it is equal to it. A walk from look-up to look-up
need not end; but a table holds finitely many values, so after as many steps as there are values it
has been somewhere twice, `exists_return`.
-/
import Signpost.Collection
import Mathlib.Data.Finset.Card
import Mathlib.Data.List.FinRange
import Mathlib.Data.List.Perm.Subperm

set_option autoImplicit false

namespace Signpost

/-! ## Keeping the first of each key -/

section KeepFirst

variable {α κ : Type} [DecidableEq κ]

/-- The elements that are the first of their key: an element stays and removes those of its key
behind it. -/
def keepFirst (key : α → κ) : List α → List α
  | [] => []
  | a :: xs => a :: (keepFirst key xs).filter fun b => key b ≠ key a

/-- A key is held when some element has it. -/
theorem holdsKey_eq_true_iff {key : α → κ} {xs : List α} {k : κ} :
    holdsKey key xs k = true ↔ ∃ x ∈ xs, key x = k := by
  simp only [holdsKey, List.any_eq_true, decide_eq_true_eq]

/-- Leaving out the elements of one key makes no difference to another. -/
theorem holdsKey_filter_ne (key : α → κ) (xs : List α) {j k : κ} (hjk : k ≠ j) :
    holdsKey key (xs.filter fun b => key b ≠ j) k = holdsKey key xs k := by
  rw [Bool.eq_iff_iff, holdsKey_eq_true_iff, holdsKey_eq_true_iff]
  constructor
  · rintro ⟨x, hx, hk⟩
    exact ⟨x, (List.mem_filter.mp hx).1, hk⟩
  · rintro ⟨x, hx, hk⟩
    exact ⟨x, List.mem_filter.mpr ⟨hx, by simpa [hk] using hjk⟩, hk⟩

/-- One more element at the end is inserted unless its key is there. -/
theorem keepFirst_concat (key : α → κ) (xs : List α) (a : α) :
    keepFirst key (xs ++ [a]) = insertBy key (keepFirst key xs) a := by
  induction xs with
  | nil => rfl
  | cons x xs ih =>
    rw [List.cons_append, keepFirst, ih, keepFirst]
    by_cases hax : key a = key x
    · -- the head has the key already, and its filter drops `a` wherever `ih` put it
      have hholds : holdsKey key (x :: (keepFirst key xs).filter fun b => key b ≠ key x) (key a)
          = true := holdsKey_eq_true_iff.mpr ⟨x, List.mem_cons_self, hax.symm⟩
      rw [insertBy, insertBy, if_pos hholds]
      split
      · rfl
      · rw [List.filter_append]
        simp [hax]
    · have hholds : holdsKey key (x :: (keepFirst key xs).filter fun b => key b ≠ key x) (key a)
          = holdsKey key (keepFirst key xs) (key a) := by
        rw [← holdsKey_filter_ne key (keepFirst key xs) hax]
        simp only [holdsKey, List.any_cons, decide_eq_false (Ne.symm hax), Bool.false_or]
      rw [insertBy, insertBy, hholds]
      split
      · rfl
      · rw [List.filter_append, List.cons_append]
        simp [hax]

/-- **Growing by one step is keeping the first of each key.** -/
theorem distinctBy_eq_keepFirst (key : α → κ) (xs : List α) :
    distinctBy key xs = keepFirst key xs := by
  have hgen : ∀ ys zs : List α,
      ys.foldl (insertBy key) (keepFirst key zs) = keepFirst key (zs ++ ys) := by
    intro ys
    induction ys with
    | nil => intro zs; rw [List.append_nil]; rfl
    | cons y ys ih =>
      intro zs
      rw [List.foldl_cons, ← keepFirst_concat, ih, List.append_assoc, List.singleton_append]
  exact hgen xs []

/-- The first element is always kept. -/
theorem head?_keepFirst (key : α → κ) (xs : List α) : (keepFirst key xs).head? = xs.head? := by
  cases xs <;> rfl

/-- What is kept are elements of the list, in their order. -/
theorem keepFirst_sublist (key : α → κ) (xs : List α) : (keepFirst key xs).Sublist xs := by
  induction xs with
  | nil => exact .slnil
  | cons x xs ih => exact (List.filter_sublist.trans ih).cons_cons x

/-- No key is kept twice. -/
theorem nodup_map_keepFirst (key : α → κ) (xs : List α) : ((keepFirst key xs).map key).Nodup := by
  induction xs with
  | nil => exact List.nodup_nil
  | cons x xs ih =>
    rw [keepFirst, List.map_cons, List.nodup_cons]
    refine ⟨?_, ih.sublist (List.filter_sublist.map key)⟩
    -- what has the key of the head is gone
    intro hmem
    obtain ⟨y, hy, hkey⟩ := List.mem_map.mp hmem
    exact of_decide_eq_true (List.mem_filter.mp hy).2 hkey

/-- The keys of a list are those of what is kept of it. -/
theorem holdsKey_keepFirst (key : α → κ) (xs : List α) (k : κ) :
    holdsKey key (keepFirst key xs) k = holdsKey key xs k := by
  induction xs with
  | nil => rfl
  | cons x xs ih =>
    by_cases hk : k = key x
    · have hhead : ∀ ys, holdsKey key (x :: ys) k = true :=
        fun ys => holdsKey_eq_true_iff.mpr ⟨x, List.mem_cons_self, hk.symm⟩
      rw [keepFirst, hhead, hhead]
    · have hhead : ∀ ys, holdsKey key (x :: ys) k = holdsKey key ys k := by
        intro ys
        simp only [holdsKey, List.any_cons, decide_eq_false (Ne.symm hk), Bool.false_or]
      rw [keepFirst, hhead, hhead, holdsKey_filter_ne key _ hk, ih]

/-- **What is kept of two lists**: what is kept of the first, and of the second what has no key of
the first. -/
theorem keepFirst_append (key : α → κ) (xs ys : List α) :
    keepFirst key (xs ++ ys)
      = keepFirst key xs ++ (keepFirst key ys).filter fun y => !holdsKey key xs (key y) := by
  induction xs with
  | nil =>
    simp [holdsKey, keepFirst]
  | cons x xs ih =>
    rw [List.cons_append, keepFirst, ih, List.filter_append, List.filter_filter, keepFirst,
      List.cons_append]
    congr 2
    refine List.filter_congr fun y _ => ?_
    simp [holdsKey, eq_comm]

/-- Where no key comes twice, everything is kept. -/
theorem keepFirst_eq_self {key : α → κ} {xs : List α} (h : (xs.map key).Nodup) :
    keepFirst key xs = xs := by
  induction xs with
  | nil => rfl
  | cons x xs ih =>
    rw [List.map_cons, List.nodup_cons] at h
    rw [keepFirst, ih h.2, List.filter_eq_self.mpr]
    intro y hy
    rw [decide_eq_true_eq]
    intro hkey
    exact h.1 (hkey ▸ List.mem_map_of_mem hy)

/-- Merging what is kept of two lists keeps what merging the lists keeps. -/
theorem keepFirst_append_keepFirst (key : α → κ) (xs ys : List α) :
    keepFirst key (keepFirst key xs ++ keepFirst key ys) = keepFirst key (xs ++ ys) := by
  rw [keepFirst_append, keepFirst_append, keepFirst_eq_self (nodup_map_keepFirst key xs),
    keepFirst_eq_self (nodup_map_keepFirst key ys)]
  simp only [holdsKey_keepFirst]

/-- What comes with keys that were there before adds nothing. -/
theorem keepFirst_append_append_of_seen {key : α → κ} {xs ys : List α}
    (h : ∀ y ∈ ys, holdsKey key xs (key y) = true) (zs : List α) :
    keepFirst key (xs ++ (ys ++ zs)) = keepFirst key (xs ++ zs) := by
  have hxs : keepFirst key (xs ++ ys) = keepFirst key xs := by
    rw [keepFirst_append, List.filter_eq_nil_iff.mpr, List.append_nil]
    intro y hy
    rw [h y ((keepFirst_sublist key ys).subset hy)]
    decide
  rw [← List.append_assoc, ← keepFirst_append_keepFirst, hxs, keepFirst_append_keepFirst]

/-- Parts may be freed of repetitions before they are put together. -/
theorem keepFirst_flatMap_keepFirst {β : Type} (key : α → κ) (f : β → List α) (bs : List β) :
    keepFirst key (bs.flatMap fun b => keepFirst key (f b)) = keepFirst key (bs.flatMap f) := by
  induction bs with
  | nil => rfl
  | cons b bs ih =>
    rw [List.flatMap_cons, List.flatMap_cons, ← keepFirst_append_keepFirst, ih,
      keepFirst_eq_self (nodup_map_keepFirst key (f b)), keepFirst_append_keepFirst]

/-- As a set, a list loses nothing. -/
theorem mem_keepFirst_id {ks : List κ} {k : κ} : k ∈ keepFirst id ks ↔ k ∈ ks := by
  have h := holdsKey_keepFirst id ks k
  rw [Bool.eq_iff_iff, holdsKey_eq_true_iff, holdsKey_eq_true_iff] at h
  simpa using h

/-- Only the empty list leaves nothing. -/
theorem keepFirst_eq_nil_iff {key : α → κ} {xs : List α} : keepFirst key xs = [] ↔ xs = [] := by
  cases xs with
  | nil => exact Iff.rfl
  | cons x xs => exact iff_of_false (List.cons_ne_nil _ _) (List.cons_ne_nil _ _)

/-- As many elements are kept as there are different keys. -/
theorem length_keepFirst (key : α → κ) (xs : List α) :
    (keepFirst key xs).length = (xs.map key).toFinset.card := by
  have hkeys : ((keepFirst key xs).map key).toFinset = (xs.map key).toFinset := by
    ext k
    have hholds := holdsKey_keepFirst key xs k
    rw [Bool.eq_iff_iff, holdsKey_eq_true_iff, holdsKey_eq_true_iff] at hholds
    rw [List.mem_toFinset, List.mem_toFinset, List.mem_map, List.mem_map]
    exact hholds
  rw [← hkeys, List.toFinset_card_of_nodup (nodup_map_keepFirst key xs), List.length_map]

/-- The elements come out in the order in which they went in. -/
theorem distinctBy_sublist (key : α → κ) (xs : List α) : (distinctBy key xs).Sublist xs := by
  rw [distinctBy_eq_keepFirst]
  exact keepFirst_sublist key xs

/-- One element at most repeats nothing. -/
theorem distinctBy_toList (key : α → κ) (o : Option α) : distinctBy key o.toList = o.toList := by
  cases o with
  | none => rfl
  | some a => rfl

end KeepFirst

/-! ## Tables written by a log -/

namespace Table

variable {ε β κ ν : Type} [DecidableEq κ]

/-- Enters a value under its key, or nothing; the policy says what becomes of a value that is there
already. -/
def record (policy : β → Option ν → ν) (t : Table κ ν) : Option (κ × β) → Table κ ν
  | none => t
  | some (k, b) => t.update k (policy b)

/-- **What a log leaves under a key.** The writes under that key, folded in order. -/
theorem find?_foldl_record (policy : β → Option ν → ν) (place : ε → Option (κ × β)) (log : List ε)
    (t : Table κ ν) (k : κ) :
    (log.foldl (fun t e => t.record policy (place e)) t).find? k
      = (((log.filterMap place).filter fun w => w.1 = k).map Prod.snd).foldl
          (fun found b => some (policy b found)) (t.find? k) := by
  induction log generalizing t with
  | nil => rfl
  | cons e log ih =>
    rw [List.foldl_cons, ih]
    cases he : place e with
    | none => rw [List.filterMap_cons_none he]; rfl
    | some w =>
      obtain ⟨j, b⟩ := w
      rw [List.filterMap_cons_some he, record, find?_update, List.filter_cons]
      by_cases hj : j = k
      · simp [hj]
      · simp [hj]

/-- The values under all keys together grow by one with each value that is appended. -/
theorem length_flatten_updateIn (k : κ) (b : ν) (es : List (κ × List ν)) :
    ((updateIn k (fun bs => bs.getD [] ++ [b]) es).map Prod.snd).flatten.length
      = (es.map Prod.snd).flatten.length + 1 := by
  induction es with
  | nil => rfl
  | cons e es ih =>
    rw [updateIn]
    split
    · simp only [List.map_cons, List.flatten_cons, List.length_append, Option.getD_some,
        List.length_singleton]
      omega
    · rw [List.map_cons, List.flatten_cons, List.length_append, ih, List.map_cons,
        List.flatten_cons, List.length_append, Nat.add_assoc]

/-- **A log that appends leaves as many values as it writes.** -/
theorem length_flatten_values_foldl_record (place : ε → Option (κ × ν)) (log : List ε)
    (t : Table κ (List ν)) :
    (log.foldl (fun t e => t.record (fun b bs => bs.getD [] ++ [b])
        (place e)) t).values.flatten.length
      = t.values.flatten.length + (log.filterMap place).length := by
  induction log generalizing t with
  | nil => rfl
  | cons e log ih =>
    rw [List.foldl_cons, ih]
    cases he : place e with
    | none => rw [List.filterMap_cons_none he]; rfl
    | some w =>
      obtain ⟨k, b⟩ := w
      rw [List.filterMap_cons_some he, record, values, update, length_flatten_updateIn,
        List.length_cons, values]
      omega

/-- What is found is one of the entries. -/
theorem mem_of_findIn {es : List (κ × ν)} {k : κ} {v : ν} (h : findIn k es = some v) :
    (k, v) ∈ es := by
  induction es with
  | nil => cases h
  | cons e es ih =>
    rw [findIn] at h
    by_cases hk : e.1 = k
    · rw [if_pos hk] at h
      rw [← hk, ← Option.some.inj h]
      exact List.mem_cons_self
    · rw [if_neg hk] at h
      exact List.mem_cons_of_mem e (ih h)

/-- What stands under a key has the key in the table. -/
theorem mem_keys_of_find? {t : Table κ ν} {k : κ} {v : ν} (h : t.find? k = some v) :
    k ∈ t.keys := by
  unfold keys
  exact List.mem_map_of_mem (mem_of_findIn h)

/-- What is found is one of the values. -/
theorem mem_values_of_find? {t : Table κ ν} {k : κ} {v : ν} (h : t.find? k = some v) :
    v ∈ t.values := by
  unfold values
  exact List.mem_map_of_mem (mem_of_findIn h)

/-! ### Tables keyed by their values -/

/-- No key occurs twice, and every value stands under the key that it names itself. -/
structure KeyedBy (key : ν → κ) (t : Table κ ν) : Prop where
  nodup : t.keys.Nodup
  key_eq : ∀ e ∈ t.entries, key e.2 = e.1

omit [DecidableEq κ] in
/-- An empty table has no value under a wrong key. -/
theorem keyedBy_empty (key : ν → κ) : KeyedBy key (empty : Table κ ν) where
  nodup := List.nodup_nil
  key_eq := fun _ he => absurd he List.not_mem_nil

/-- Writing under a key adds it behind the others, unless it is there. -/
theorem map_fst_updateIn (k : κ) (f : Option ν → ν) (es : List (κ × ν)) :
    (updateIn k f es).map Prod.fst
      = if k ∈ es.map Prod.fst then es.map Prod.fst else es.map Prod.fst ++ [k] := by
  induction es with
  | nil => simp [updateIn]
  | cons e es ih =>
    rw [updateIn]
    by_cases hk : e.1 = k
    · simp [hk]
    · have hk' : k ≠ e.1 := Ne.symm hk
      rw [if_neg hk, List.map_cons, ih, List.map_cons]
      simp only [List.mem_cons, hk', false_or]
      split
      · rfl
      · rfl

/-- The keys of a table are a list without repetitions, built key by key. -/
theorem keys_update (t : Table κ ν) (k : κ) (f : Option ν → ν) :
    (t.update k f).keys = insertBy id t.keys k := by
  have hholds : holdsKey id t.keys k = true ↔ k ∈ t.entries.map Prod.fst := by
    rw [holdsKey_eq_true_iff, keys]
    simp
  rw [keys, update, map_fst_updateIn, insertBy, keys]
  exact (if_congr hholds rfl rfl).symm

/-- **The keys that a log leaves**, each once, in the order of first writing. -/
theorem keys_foldl_record (policy : β → Option ν → ν) (place : ε → Option (κ × β)) (log : List ε)
    (t : Table κ ν) :
    (log.foldl (fun t e => t.record policy (place e)) t).keys
      = ((log.filterMap place).map Prod.fst).foldl (insertBy id) t.keys := by
  induction log generalizing t with
  | nil => rfl
  | cons e log ih =>
    rw [List.foldl_cons, ih]
    cases he : place e with
    | none => rw [List.filterMap_cons_none he]; rfl
    | some w => rw [List.filterMap_cons_some he, record, keys_update]; rfl

/-- After a value is put under a key, each entry is that one or was there before. -/
theorem mem_updateIn_const {k : κ} {v : ν} {es : List (κ × ν)} {e : κ × ν}
    (h : e ∈ updateIn k (fun _ => v) es) : e = (k, v) ∨ e ∈ es := by
  induction es with
  | nil => exact Or.inl (List.mem_singleton.mp h)
  | cons e' es ih =>
    rw [updateIn] at h
    split at h
    · rcases List.mem_cons.mp h with h | h
      · exact Or.inl h
      · exact Or.inr (List.mem_cons_of_mem _ h)
    · rcases List.mem_cons.mp h with h | h
      · exact Or.inr (h ▸ List.mem_cons_self)
      · exact (ih h).imp_right (List.mem_cons_of_mem _)

/-- A value that is put under its own key keeps a table so. -/
theorem KeyedBy.insert {key : ν → κ} {t : Table κ ν} (h : t.KeyedBy key) (v : ν) :
    (t.insert (key v) v).KeyedBy key where
  nodup := by
    rw [Table.insert, update, keys, map_fst_updateIn]
    split
    · exact h.nodup
    · next hk =>
      rw [List.nodup_append]
      refine ⟨h.nodup, List.nodup_cons.mpr ⟨List.not_mem_nil, List.nodup_nil⟩, ?_⟩
      intro a ha b hb hab
      rw [List.mem_singleton.mp hb] at hab
      exact hk (hab ▸ ha)
  key_eq := by
    intro e he
    rcases mem_updateIn_const he with rfl | he
    · rfl
    · exact h.key_eq e he

/-- As no key comes twice, what is found under a key is what stands beside it. -/
theorem findIn_eq_some_iff {es : List (κ × ν)} (hnodup : (es.map Prod.fst).Nodup) {k : κ} {v : ν} :
    findIn k es = some v ↔ (k, v) ∈ es := by
  induction es with
  | nil => simp [findIn]
  | cons e es ih =>
    rw [List.map_cons, List.nodup_cons] at hnodup
    rw [findIn, List.mem_cons]
    by_cases hk : e.1 = k
    · have hout : (k, v) ∉ es := fun h => hnodup.1 (hk ▸ List.mem_map_of_mem h)
      rw [if_pos hk, Option.some.injEq]
      constructor
      · intro hv
        exact Or.inl (Prod.ext hk.symm hv.symm)
      · rintro (h | h)
        · rw [← h]
        · exact absurd h hout
    · rw [if_neg hk, ih hnodup.2]
      constructor
      · exact Or.inr
      · rintro (h | h)
        · exact absurd (congrArg Prod.fst h).symm hk
        · exact h

/-- All values are those that are found under the keys. -/
theorem flatten_values_eq {t : Table κ (List ν)} (hnodup : t.keys.Nodup) :
    t.values.flatten = t.keys.flatMap fun k => (t.find? k).getD [] := by
  rw [values, ← List.flatMap_def, keys, List.flatMap_map]
  refine List.flatMap_congr fun e he => ?_
  have hfind : findIn e.1 t.entries = some e.2 := (findIn_eq_some_iff hnodup).mpr he
  rw [find?, hfind]
  rfl

/-- The values of such a table are those that it gives under their own keys. -/
theorem KeyedBy.mem_values {key : ν → κ} {t : Table κ ν} (h : t.KeyedBy key) {v : ν} :
    v ∈ t.values ↔ t.find? (key v) = some v := by
  rw [find?, findIn_eq_some_iff h.nodup, values, List.mem_map]
  constructor
  · rintro ⟨e, he, rfl⟩
    rw [h.key_eq e he]
    exact he
  · intro hv
    exact ⟨_, hv, rfl⟩

omit [DecidableEq κ] in
/-- In such a table the keys can be read off the values. -/
theorem KeyedBy.map_values {key : ν → κ} {t : Table κ ν} (h : t.KeyedBy key) :
    t.values.map key = t.keys := by
  rw [values, keys, List.map_map]
  exact List.map_congr_left h.key_eq

end Table

/-! ## Chains that come to an end -/

/-- The step leads from `a` through the given elements, and there is no step from the last one. -/
inductive FullChain {α : Type} (next : α → Option α) : α → List α → Prop
  | stop {a : α} (h : next a = none) : FullChain next a []
  | step {a b : α} {bs : List α} (h : next a = some b) (rest : FullChain next b bs) :
    FullChain next a (b :: bs)

namespace FullChain

variable {α : Type} {next : α → Option α} {a : α} {as : List α}

/-- A bound that leaves room for the whole chain does not show. -/
theorem chain_eq (h : FullChain next a as) {bound : Nat} (hbound : as.length ≤ bound) :
    chain next bound a = as := by
  induction h generalizing bound with
  | stop hnone =>
    cases bound with
    | zero => rfl
    | succ bound => rw [chain_succ, hnone]; rfl
  | @step a b bs hsome _ ih =>
    rw [List.length_cons] at hbound
    obtain ⟨room, rfl⟩ : ∃ room, bound = room + 1 := ⟨bound - 1, by omega⟩
    rw [chain_succ, hsome, Option.map_some, Option.getD_some, ih (by omega)]

/-- There is at most one such walk from an element. -/
theorem unique {bs : List α} (ha : FullChain next a as) (hb : FullChain next a bs) : as = bs := by
  have hleft := ha.chain_eq (Nat.le_max_left as.length bs.length)
  have hright := hb.chain_eq (Nat.le_max_right as.length bs.length)
  exact hleft.symm.trans hright

/-- From every element of a chain the rest of it leads on. -/
theorem exists_of_mem (h : FullChain next a as) {x : α} (hx : x ∈ as) :
    ∃ xs, FullChain next x xs ∧ xs.length < as.length := by
  induction h with
  | stop => exact absurd hx List.not_mem_nil
  | @step a b bs _ hrest ih =>
    rw [List.length_cons]
    rcases List.mem_cons.mp hx with rfl | hx
    · exact ⟨bs, hrest, by omega⟩
    · obtain ⟨xs, hxs, hlt⟩ := ih hx
      exact ⟨xs, hxs, by omega⟩

/-- **A chain that ends visits nothing twice**: from a repeated element it would go on for two
different lengths. -/
theorem nodup (h : FullChain next a as) : (a :: as).Nodup := by
  have hnotMem : ∀ {a : α} {as : List α}, FullChain next a as → a ∉ as := by
    intro a as h ha
    obtain ⟨xs, hxs, hlt⟩ := h.exists_of_mem ha
    rw [hxs.unique h] at hlt
    exact Nat.lt_irrefl _ hlt
  induction h with
  | stop => simp
  | step hsome hrest ih => exact List.nodup_cons.mpr ⟨hnotMem (.step hsome hrest), ih⟩

/-- The step from an element of a chain leads to an element of it. -/
theorem mem_of_next (h : FullChain next a as) {x y : α} (hx : x ∈ a :: as) (hy : next x = some y) :
    y ∈ as := by
  induction h with
  | stop hnone =>
    rw [List.mem_singleton.mp hx, hnone] at hy
    cases hy
  | @step a b bs hsome _ ih =>
    rcases List.mem_cons.mp hx with rfl | hx
    · rw [hsome] at hy
      rw [Option.some.inj hy]
      exact List.mem_cons_self
    · exact List.mem_cons_of_mem b (ih hx)

/-- Only from the last element of a chain there is no step. -/
theorem getLast?_eq_of_next (h : FullChain next a as) {x : α} (hx : x ∈ a :: as)
    (hnone : next x = none) : (a :: as).getLast? = some x := by
  induction h with
  | stop => rw [List.mem_singleton.mp hx]; rfl
  | @step a b bs hsome _ ih =>
    rw [List.getLast?_cons_cons]
    rcases List.mem_cons.mp hx with rfl | hx
    · rw [hsome] at hnone
      cases hnone
    · exact ih hx

/-- Another step that is the same on every element leads through the same chain. -/
theorem congr (h : FullChain next a as) {other : α → Option α}
    (hsame : ∀ x ∈ a :: as, other x = next x) : FullChain other a as := by
  induction h with
  | stop hnone => exact .stop ((hsame _ List.mem_cons_self).trans hnone)
  | step hsome _ ih =>
    refine .step ((hsame _ List.mem_cons_self).trans hsome) (ih ?_)
    exact fun x hx => hsame x (List.mem_cons_of_mem _ hx)

end FullChain

/-! ## Walks that come back -/

/-- **A walk through a list comes back** if it takes as many steps as the list is long: it has then
stopped once more often than there are places to stop at. -/
theorem exists_return {α : Type} {places : List α} {Visits : Nat → α → Prop}
    (h : ∀ k ≤ places.length, ∃ a ∈ places, Visits k a) :
    ∃ i j a, i < j ∧ j ≤ places.length ∧ Visits i a ∧ Visits j a := by
  have hstop : ∀ k : Fin (places.length + 1), ∃ a, a ∈ places ∧ Visits k a := by
    intro k
    obtain ⟨a, ha, hvisits⟩ := h k (Nat.lt_succ_iff.mp k.isLt)
    exact ⟨a, ha, hvisits⟩
  choose stop hmem hvisits using hstop
  have hrepeat : ¬ Function.Injective stop := by
    intro hinjective
    have hnodup : (List.ofFn stop).Nodup := List.nodup_ofFn.mpr hinjective
    have hsubset : List.ofFn stop ⊆ places := by
      intro a ha
      obtain ⟨k, rfl⟩ := List.mem_ofFn.mp ha
      exact hmem k
    have hlength := (hnodup.subperm hsubset).length_le
    rw [List.length_ofFn] at hlength
    omega
  -- of two steps with the same stop one is the earlier
  obtain ⟨i, j, hsame, hne⟩ := Function.not_injective_iff.mp hrepeat
  rcases Nat.lt_or_gt_of_ne (Fin.val_ne_of_ne hne) with hlt | hlt
  · exact ⟨i, j, stop i, hlt, Nat.lt_succ_iff.mp j.isLt, hvisits i, hsame ▸ hvisits j⟩
  · exact ⟨j, i, stop j, hlt, Nat.lt_succ_iff.mp i.isLt, hvisits j, hsame ▸ hvisits i⟩

end Signpost
