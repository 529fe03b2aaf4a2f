/-
`Proofs/Container/AliasBound.lean` -- what the bound on alias hops costs.

Room for more hops finds no other class, it only finds more of them: who answers within a bound
answers within every larger one. The question is when a bound is large enough. A chain that has gone
through as many hops as there are services has met some key twice, and then it goes on for ever
(`Reaches.exists_of_return`); one that ends is therefore shorter than the table of services is long,
and a bound of that size never cuts it off.

`DeadEnd` lists the reasons for having no class that are no matter of bounds: the chain comes to an
id that no service has, to a definition that tells no class, or back to a key. Each of them leaves
every bound without an answer, and at a bound of the size of the table there is no other reason.
-/
import Signpost.Proofs.Collection
import Signpost.Proofs.Container.AliasChain

set_option autoImplicit false

namespace Signpost

/-! ## Chains as long as the table -/

namespace Lookups

variable {index : Index} {id : String} {hops : Nat} {key : ServiceKey} {d : ServiceDefinition}

/-- A chain leads through keys of the table only. -/
theorem Reaches.mem_keys (h : index.lookups.Reaches id hops key d) : key ∈ index.services.keys := by
  have hhead : (index.servicesAt key).head? = some d := h.head?_servicesAt
  unfold Index.servicesAt at hhead
  cases hfound : index.services.find? key with
  | none =>
    rw [hfound] at hhead
    cases hhead
  | some ds => exact Table.mem_keys_of_find? hfound

/-- **A chain of as many hops as there are services has met a key twice.** -/
theorem Reaches.exists_circle (h : index.lookups.Reaches id hops key d)
    (hlong : index.stats.services ≤ hops) :
    ∃ i j key d e, i < j ∧ index.lookups.Reaches id i key d ∧ index.lookups.Reaches id j key e := by
  have hlength : index.services.keys.length = index.stats.services := by
    unfold Table.keys
    exact List.length_map _
  -- the first hops, the start counted, are one more than there are keys to meet
  have hvisits : ∀ k ≤ index.services.keys.length,
      ∃ key ∈ index.services.keys, ∃ d, index.lookups.Reaches id k key d := by
    intro k hk
    obtain ⟨key, d, hreaches⟩ := h.exists_earlier (by omega : k ≤ hops)
    exact ⟨key, hreaches.mem_keys, d, hreaches⟩
  obtain ⟨i, j, key, hij, -, ⟨d, hi⟩, e, hj⟩ := exists_return hvisits
  exact ⟨i, j, key, d, e, hij, hi, hj⟩

end Lookups

namespace Container

variable {c : Container} {id : String}

/-! ## Reasons for having no class -/

/-- No class is found along the chain from an id, and no bound on the hops is to blame. -/
inductive DeadEnd (c : Container) (id : String) : Prop
  /-- No service has the id. -/
  | unknown (missing : c.service? id = none)
  /-- The chain reaches an alias of an id that no service has. -/
  | unknownAlias {hops : Nat} {key : ServiceKey} {d : ServiceDefinition} {other : String}
    (reached : c.index.Reaches id hops key d) (noClass : ¬ d.NamesClass)
    (aliasOf : d.aliasOf = some other) (missing : c.service? other = none)
  /-- The chain reaches a definition that leads no further and tells no class. -/
  | silent {hops : Nat} {key : ServiceKey} {d : ServiceDefinition}
    (reached : c.index.Reaches id hops key d) (last : d.NamesClass ∨ d.aliasOf = none)
    (tellsNone : ∀ name, ¬ c.Tells d name)
  /-- The chain comes back to a key. -/
  | circle {i j : Nat} {key : ServiceKey} {d e : ServiceDefinition} (before : i < j)
    (first : c.index.Reaches id i key d) (again : c.index.Reaches id j key e)

/-- A definition that leads no further and tells no class has none, whatever the room. -/
theorem classOf?_of_silent {d : ServiceDefinition} (hlast : d.NamesClass ∨ d.aliasOf = none)
    (hsilent : ∀ name, ¬ c.Tells d name) (room : Nat) : c.classOf? room d = none := by
  rw [Option.eq_none_iff_forall_ne_some]
  intro name hname
  rcases tells_or_hop hname with htells | ⟨-, other, -, -, -, hclass, halias, -⟩
  · exact hsilent name htells
  · rcases hlast with hnames | hnone
    · exact hclass hnames
    · rw [hnone] at halias
      cases halias

/-- An alias of an id that no service has leads nowhere, whatever the room. -/
theorem classOf?_of_missing {d : ServiceDefinition} {other : String} (hclass : ¬ d.NamesClass)
    (halias : d.aliasOf = some other) (hmissing : c.service? other = none) (room : Nat) :
    c.classOf? room d = none := by
  cases room with
  | zero => exact (classOf?_of_aliasOf hclass halias 0).1
  | succ room => rw [(classOf?_of_aliasOf hclass halias room).2, hmissing, Option.bind_none]

/-- Where the chain reaches a definition that has no class with any room, there is no answer: either
the definition is asked, or the bound is met before it. -/
theorem serviceClass?_eq_none_of_classOf? {hops : Nat} {key : ServiceKey} {d : ServiceDefinition}
    (hreached : c.index.Reaches id hops key d) (hnone : ∀ room, c.classOf? room d = none) :
    c.serviceClass? id = none := by
  by_cases hbound : hops ≤ c.maxAliasDepth
  · rw [serviceClass?_eq_classOf? hreached hbound]
    exact hnone _
  · obtain ⟨last, e, hlast⟩ := hreached.exists_earlier (by omega : c.maxAliasDepth + 1 ≤ hops)
    exact serviceClass?_eq_none_of_reaches hlast rfl

/-- At a dead end there is no class, whatever the bound. -/
theorem DeadEnd.serviceClass?_eq_none (h : c.DeadEnd id) : c.serviceClass? id = none := by
  cases h with
  | unknown hmissing => rw [serviceClass?, hmissing, Option.bind_none]
  | unknownAlias hreached hclass halias hmissing =>
    exact serviceClass?_eq_none_of_classOf? hreached (classOf?_of_missing hclass halias hmissing)
  | silent hreached hlast hsilent =>
    exact serviceClass?_eq_none_of_classOf? hreached (classOf?_of_silent hlast hsilent)
  | circle hbefore hfirst hagain =>
    -- a chain that has come back never ends, so it also gets past the bound
    obtain ⟨last, f, hlast⟩ := hfirst.exists_of_return hagain hbefore (c.maxAliasDepth + 1)
    exact serviceClass?_eq_none_of_reaches hlast rfl

/-- Without an answer and without a dead end, the chain uses up the whole bound. -/
theorem deadEnd_or_reaches (hnone : c.serviceClass? id = none) {hops : Nat}
    (hbound : hops ≤ c.maxAliasDepth) :
    c.DeadEnd id ∨ ∃ key d, c.index.Reaches id hops key d := by
  -- hop by hop: what the definition at hand says decides whether there is a next one
  induction hops with
  | zero =>
    cases hservice : c.service? id with
    | none => exact .inl (.unknown hservice)
    | some d =>
      obtain ⟨key, hcounts⟩ := service?_eq_some_iff.mp hservice
      exact .inr ⟨key, d, .start hcounts⟩
  | succ hops ih =>
    rcases ih (by omega) with hdead | ⟨key, d, hreached⟩
    · exact .inl hdead
    · by_cases hlast : d.NamesClass ∨ d.aliasOf = none
      · refine .inl (.silent hreached hlast fun name htells => ?_)
        have hsome : c.serviceClass? id = some name :=
          serviceClass?_eq_some_iff.mpr ⟨hops, by omega, key, d, hreached, htells⟩
        rw [hnone] at hsome
        cases hsome
      · obtain ⟨hclass, hsome⟩ := not_or.mp hlast
        obtain ⟨other, halias⟩ := Option.ne_none_iff_exists'.mp hsome
        cases hservice : c.service? other with
        | none => exact .inl (.unknownAlias hreached hclass halias hservice)
        | some e =>
          obtain ⟨next, hcounts⟩ := service?_eq_some_iff.mp hservice
          exact .inr ⟨next, e, .hop hreached hclass halias hcounts⟩

/-- **At a bound of the size of the table, nothing but a dead end is left without a class.** -/
theorem serviceClass?_eq_none_iff_deadEnd {index : Index} {bound : Nat}
    (hbound : index.stats.services ≤ bound) :
    (Container.mk index bound).serviceClass? id = none ↔ (Container.mk index bound).DeadEnd id := by
  constructor
  · intro hnone
    rcases deadEnd_or_reaches hnone hbound with hdead | ⟨key, d, hreached⟩
    · exact hdead
    · obtain ⟨i, j, key, d, e, hij, hi, hj⟩ := hreached.exists_circle (Nat.le_refl _)
      exact .circle hij hi hj
  · exact DeadEnd.serviceClass?_eq_none

/-! ## Bounds compared -/

section Bounds

variable {index : Lookups} {n m : Nat}

/-- What a definition tells is no matter of the bound. -/
theorem Tells.of_bound {d : ServiceDefinition} {name : String}
    (h : (Container.mk index n).Tells d name) : (Container.mk index m).Tells d name := by
  cases h with
  | named hclass hblank hread => exact .named hclass hblank hread
  | ownId hclass halias hseparated hnormal => exact .ownId hclass halias hseparated hnormal

/-- Neither is a dead end. -/
theorem DeadEnd.of_bound (h : (Container.mk index n).DeadEnd id) :
    (Container.mk index m).DeadEnd id := by
  cases h with
  | unknown hmissing => exact .unknown hmissing
  | unknownAlias hreached hclass halias hmissing =>
    exact .unknownAlias hreached hclass halias hmissing
  | silent hreached hlast hsilent =>
    exact .silent hreached hlast fun name htells => hsilent name htells.of_bound
  | circle hbefore hfirst hagain => exact .circle hbefore hfirst hagain

theorem serviceClass?_mono {name : String} (hle : n ≤ m)
    (h : (Container.mk index n).serviceClass? id = some name) :
    (Container.mk index m).serviceClass? id = some name := by
  rw [serviceClass?_eq_some_iff] at h ⊢
  obtain ⟨hops, hhops, key, d, hreaches, htells⟩ := h
  exact ⟨hops, Nat.le_trans hhops hle, key, d, hreaches, htells.of_bound⟩

/-- A larger bound adds nothing to one of the size of the table. -/
theorem serviceClass?_eq_of_le {index : Index} (hle : n ≤ m) (hbound : index.stats.services ≤ n) :
    (Container.mk index n).serviceClass? id = (Container.mk index m).serviceClass? id := by
  cases hsmall : (Container.mk index n).serviceClass? id with
  | some name => exact (serviceClass?_mono hle hsmall).symm
  | none =>
    have hdead : (Container.mk index n).DeadEnd id :=
      (serviceClass?_eq_none_iff_deadEnd hbound).mp hsmall
    exact hdead.of_bound.serviceClass?_eq_none.symm

end Bounds

/-- **The bound on alias hops only takes answers away, and one of the size of the table takes none.**
An answer within a bound is the answer within every larger bound. Two bounds that are no smaller than
the number of services answer alike; and where such a bound has no answer, the chain comes to an id
that no service has, to a definition that tells no class, or back to a key. -/
theorem alias_bound_only_takes_away (index : Index) (id : String) :
    (∀ n m name, n ≤ m → (Container.mk index n).serviceClass? id = some name →
      (Container.mk index m).serviceClass? id = some name)
    ∧ (∀ n m, index.stats.services ≤ n → index.stats.services ≤ m →
      (Container.mk index n).serviceClass? id = (Container.mk index m).serviceClass? id)
    ∧ ∀ n, index.stats.services ≤ n →
      ((Container.mk index n).serviceClass? id = none ↔ (Container.mk index n).DeadEnd id) := by
  refine ⟨fun n m name => serviceClass?_mono, ?_, ?_⟩
  · intro n m hn hm
    rcases Nat.le_total n m with hle | hle
    · exact serviceClass?_eq_of_le hle hn
    · exact (serviceClass?_eq_of_le hle hm).symm
  · intro n hn
    exact serviceClass?_eq_none_iff_deadEnd hn

/-- Two aliases spelled in their own ways in front of a class, two aliases of each other, and an
alias of nothing. The class takes two hops; with room for them it stays the same, and the rest have
no class with room for as many hops as there are services, and for any more. -/
theorem alias_bound_only_takes_away_spelled :
    let index := Index.ofEntries [.service ⟨"a", some " ", some "@B", none⟩,
      .service ⟨"b", none, some "'\\N\\C'", none⟩, .service ⟨"N\\C", some "", none, none⟩,
      .service ⟨"x", none, some "Y", none⟩, .service ⟨"y", none, some "@x", none⟩,
      .service ⟨"z", none, some "gone", none⟩]
    (∀ more, (Container.mk index (2 + more)).serviceClass? "a" = some "N\\C")
      ∧ (∀ more, (Container.mk index 6).serviceClass? "x"
        = (Container.mk index (6 + more)).serviceClass? "x")
      ∧ (Container.mk index 6).DeadEnd "x" ∧ (Container.mk index 6).DeadEnd "z" := by
  intro index
  have hsize : index.stats.services = 6 := by decide +kernel
  have ha : (Container.mk index 2).serviceClass? "a" = some "N\\C" := by decide +kernel
  have hx : (Container.mk index 6).serviceClass? "x" = none := by decide +kernel
  have hz : (Container.mk index 6).serviceClass? "z" = none := by decide +kernel
  refine ⟨?_, ?_, ?_, ?_⟩
  · intro more
    exact (alias_bound_only_takes_away index "a").1 2 (2 + more) _ (Nat.le_add_right 2 more) ha
  · intro more
    exact (alias_bound_only_takes_away index "x").2.1 6 (6 + more) (by omega) (by omega)
  · exact ((alias_bound_only_takes_away index "x").2.2 6 (by omega)).mp hx
  · exact ((alias_bound_only_takes_away index "z").2.2 6 (by omega)).mp hz

end Container

end Signpost
