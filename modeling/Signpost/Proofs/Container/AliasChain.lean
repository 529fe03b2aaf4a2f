/-
`Proofs/Container/AliasChain.lean` -- alias chains.

A service may be another name of a second one, and that of a third. `Reaches` is the chain that
starts at an id, hop by hop and without a bound: it goes on as long as a definition names no class
and is an alias of a service that is there. `Tells` says when a definition ends the search with a
class. Resolving a service with room for `n` hops finds what the definitions at distance `n` or less
tell, and nothing else.

Everything rests on one equation, `serviceClass?_eq_classOf?`: after some hops along the chain, what
is left to do is to ask the definition that was reached, with that many hops fewer. Whoever answers
stands further along the chain (`exists_tells_of_reaches`), and a chain that goes on past the bound
uses up its room and ends with nothing (`serviceClass?_eq_none_of_reaches`). A key that comes up
twice makes the chain go on for ever, since the definition under a key decides all that follows it.

Specification: B.6, item 8.
-/
import Signpost.Container

set_option autoImplicit false

namespace Signpost

/-! ## The chain -/

/-- The definition names a class. A blank text names none. -/
def ServiceDefinition.NamesClass (d : ServiceDefinition) : Prop :=
  ∃ text, d.className = some text ∧ Text.trim text ≠ ""

instance (d : ServiceDefinition) : Decidable d.NamesClass :=
  decidable_of_iff (d.className.any fun text => decide (Text.trim text ≠ "")) <| by
    simp only [ServiceDefinition.NamesClass, Option.any_eq_true, decide_eq_true_eq]

namespace Lookups

/-- The definition that counts for an id, and the key under which it is found. -/
def Counts (i : Lookups) (id : String) (key : ServiceKey) (d : ServiceDefinition) : Prop :=
  ServiceKey.ofText? id = some key ∧ (i.servicesAt key).head? = some d

instance (i : Lookups) (id : String) (key : ServiceKey) (d : ServiceDefinition) :
    Decidable (i.Counts id key d) :=
  inferInstanceAs (Decidable (_ ∧ _))

/-- So many hops from alias to alias lead from the id to the definition, found under the key. All
definitions before it name no class and are aliases. -/
inductive Reaches (i : Lookups) (id : String) : Nat → ServiceKey → ServiceDefinition → Prop
  | start {key : ServiceKey} {d : ServiceDefinition} (counts : i.Counts id key d) :
    Reaches i id 0 key d
  | hop {hops : Nat} {key next : ServiceKey} {d e : ServiceDefinition} {other : String}
    (before : Reaches i id hops key d) (noClass : ¬ d.NamesClass) (aliasOf : d.aliasOf = some other)
    (counts : i.Counts other next e) : Reaches i id (hops + 1) next e

variable {index : Lookups} {id : String}

/-- At most one definition of an id counts. -/
theorem Counts.unique {key key' : ServiceKey} {d d' : ServiceDefinition}
    (h : index.Counts id key d) (h' : index.Counts id key' d') : key = key' ∧ d = d' := by
  obtain rfl : key = key' := Option.some.inj (h.1.symm.trans h'.1)
  exact ⟨rfl, Option.some.inj (h.2.symm.trans h'.2)⟩

/-! ### Chains that come back -/

namespace Reaches

variable {hops i j : Nat} {key key' : ServiceKey} {d e : ServiceDefinition}

/-- A definition on the chain is the one that counts under its key. -/
theorem head?_servicesAt (h : index.Reaches id hops key d) :
    (index.servicesAt key).head? = some d := by
  cases h with
  | start hcounts => exact hcounts.2
  | hop _ _ _ hcounts => exact hcounts.2

/-- So many hops lead to one place. -/
theorem unique (h : index.Reaches id hops key d) (h' : index.Reaches id hops key' e) :
    key = key' ∧ d = e := by
  induction h generalizing key' e with
  | start hcounts =>
    cases h' with
    | start hcounts' => exact hcounts.unique hcounts'
  | hop _ _ halias hcounts ih =>
    cases h' with
    | hop hbefore' _ halias' hcounts' =>
      obtain ⟨-, rfl⟩ := ih hbefore'
      obtain rfl := Option.some.inj (halias.symm.trans halias')
      exact hcounts.unique hcounts'

/-- A chain that gets far has been everywhere on the way. -/
theorem exists_earlier (h : index.Reaches id hops key d) (hi : i ≤ hops) :
    ∃ key d, index.Reaches id i key d := by
  induction h with
  | start hcounts =>
    obtain rfl : i = 0 := by omega
    exact ⟨_, _, .start hcounts⟩
  | @hop hops _ next _ e _ hbefore hclass halias hcounts ih =>
    by_cases hlast : i = hops + 1
    · rw [hlast]
      exact ⟨next, e, .hop hbefore hclass halias hcounts⟩
    · exact ih (by omega)

/-- The definition under a key decides what follows it, so from two places with the same key the
chain goes on alike. -/
theorem shift (hi : index.Reaches id i key d) (hj : index.Reaches id j key d) {more : Nat}
    {last : ServiceKey} {f : ServiceDefinition} (h : index.Reaches id (i + more) last f) :
    index.Reaches id (j + more) last f := by
  induction more generalizing last f with
  | zero =>
    obtain ⟨rfl, rfl⟩ := hi.unique h
    exact hj
  | succ more ih =>
    cases h with
    | hop hbefore hclass halias hcounts => exact .hop (ih hbefore) hclass halias hcounts

/-- **A chain that comes back to a key never ends.** -/
theorem exists_of_return (hi : index.Reaches id i key d) (hj : index.Reaches id j key e)
    (hij : i < j) (hops : Nat) : ∃ key d, index.Reaches id hops key d := by
  obtain rfl : d = e := Option.some.inj (hi.head?_servicesAt.symm.trans hj.head?_servicesAt)
  -- beyond the return the chain repeats what came `j - i` hops before
  induction hops using Nat.strongRecOn with
  | ind hops ih =>
    by_cases hle : hops ≤ j
    · exact hj.exists_earlier hle
    · obtain ⟨last, f, hf⟩ := ih (i + (hops - j)) (by omega)
      have hlater := hi.shift hj hf
      rw [Nat.add_sub_cancel' (by omega)] at hlater
      exact ⟨last, f, hlater⟩

end Reaches

end Lookups

namespace Container

variable {c : Container} {id : String}

/-! ## What a definition says -/

/-- The definition ends the search with a class: the one that it names, or its own id if that looks
like a class and the definition names none and is no alias. -/
inductive Tells (c : Container) (d : ServiceDefinition) (name : String) : Prop
  | named {text : String} (className : d.className = some text) (notBlank : Text.trim text ≠ "")
    (read : c.className? text = some name)
  | ownId (noClass : ¬ d.NamesClass) (noAlias : d.aliasOf = none)
    (separated : ClassName.separator ∈ d.id.toList) (normal : ClassName.normalize d.id = name)

/-- Looking a service up finds the definition that counts. -/
theorem service?_eq_some_iff {d : ServiceDefinition} :
    c.service? id = some d ↔ ∃ key, c.index.Counts id key d :=
  Option.bind_eq_some_iff

/-- A definition that names a class leads to it, whatever else it says. -/
theorem lead_of_className {d : ServiceDefinition} {text : String} (h : d.className = some text)
    (hblank : Text.trim text ≠ "") : lead d = .classText text := by
  have hfilter : (some text).filter (fun text => !(Text.trim text).isEmpty) = some text := by
    rw [Option.filter_some, if_pos (by simpa using hblank)]
  simp only [lead, h, hfilter]

/-- A definition that names no class has no class text, or a blank one. -/
theorem filter_className_eq_none {d : ServiceDefinition} (h : ¬ d.NamesClass) :
    (d.className.filter fun text => !(Text.trim text).isEmpty) = none := by
  rw [Option.filter_eq_none_iff]
  intro text htext hblank
  refine h ⟨text, htext, ?_⟩
  simpa using hblank

/-- An alias that names no class leads to the other service. -/
theorem lead_of_aliasOf {d : ServiceDefinition} {other : String} (h : ¬ d.NamesClass)
    (halias : d.aliasOf = some other) : lead d = .otherService other := by
  simp only [lead, filter_className_eq_none h, halias]

/-- A definition that names neither leads to the class that its id spells, if it spells one. -/
theorem lead_of_noAlias {d : ServiceDefinition} (h : ¬ d.NamesClass) (halias : d.aliasOf = none) :
    lead d = if ClassName.separator ∈ d.id.toList then .idAsClass d.id else .nothing := by
  simp only [lead, filter_className_eq_none h, halias, List.contains_iff_mem]

/-- Where a definition tells a class, no hop is taken. -/
theorem classOf?_of_tells {d : ServiceDefinition} {name : String} (h : c.Tells d name)
    (room : Nat) : c.classOf? room d = some name := by
  cases h with
  | named hclass hblank hread =>
    unfold classOf?
    simp only [lead_of_className hclass hblank, hread]
  | ownId hclass halias hseparated hnormal =>
    unfold classOf?
    simp only [lead_of_noAlias hclass halias, if_pos hseparated, hnormal]

/-- Where it is an alias, one hop is taken if there is room. -/
theorem classOf?_of_aliasOf {d : ServiceDefinition} {other : String} (h : ¬ d.NamesClass)
    (halias : d.aliasOf = some other) (room : Nat) :
    c.classOf? 0 d = none
      ∧ c.classOf? (room + 1) d = (c.service? other).bind (c.classOf? room) := by
  constructor
  · rw [classOf?, lead_of_aliasOf h halias]
  · rw [classOf?, lead_of_aliasOf h halias]

/-- A definition that leads to a class tells it, or it is an alias and there was room for a hop. -/
theorem tells_or_hop {d : ServiceDefinition} {name : String} {room : Nat}
    (h : c.classOf? room d = some name) :
    c.Tells d name ∨ ∃ less other key e, room = less + 1 ∧ ¬ d.NamesClass
      ∧ d.aliasOf = some other ∧ c.index.Counts other key e ∧ c.classOf? less e = some name := by
  by_cases hclass : d.NamesClass
  · obtain ⟨text, htext, hblank⟩ := hclass
    rw [classOf?, lead_of_className htext hblank] at h
    exact .inl (.named htext hblank h)
  · cases halias : d.aliasOf with
    | none =>
      rw [classOf?, lead_of_noAlias hclass halias] at h
      by_cases hseparated : ClassName.separator ∈ d.id.toList
      · rw [if_pos hseparated] at h
        exact .inl (.ownId hclass halias hseparated (Option.some.inj h))
      · rw [if_neg hseparated] at h
        cases h
    | some other =>
      cases room with
      | zero =>
        rw [(classOf?_of_aliasOf hclass halias 0).1] at h
        cases h
      | succ less =>
        rw [(classOf?_of_aliasOf hclass halias less).2, Option.bind_eq_some_iff] at h
        obtain ⟨e, he, hname⟩ := h
        obtain ⟨key, hcounts⟩ := service?_eq_some_iff.mp he
        exact .inr ⟨less, other, key, e, rfl, hclass, rfl, hcounts, hname⟩

/-! ## Along the chain -/

/-- **After some hops**, the definition that was reached decides, with that much less room. -/
theorem serviceClass?_eq_classOf? {hops : Nat} {key : ServiceKey} {d : ServiceDefinition}
    (h : c.index.Reaches id hops key d) (hbound : hops ≤ c.maxAliasDepth) :
    c.serviceClass? id = c.classOf? (c.maxAliasDepth - hops) d := by
  induction h with
  | start hcounts =>
    rw [serviceClass?, service?_eq_some_iff.mpr ⟨_, hcounts⟩, Option.bind_some, Nat.sub_zero]
  | @hop hops key next d e other _ hclass halias hcounts ih =>
    obtain ⟨room, hroom⟩ : ∃ room, c.maxAliasDepth - hops = room + 1 :=
      ⟨c.maxAliasDepth - hops - 1, by omega⟩
    have hrest : c.maxAliasDepth - (hops + 1) = room := by omega
    rw [ih (by omega), hroom, (classOf?_of_aliasOf hclass halias room).2,
      service?_eq_some_iff.mpr ⟨_, hcounts⟩, Option.bind_some, hrest]

/-- An answer comes from a definition further along the chain, within the room. -/
theorem exists_tells_of_reaches {hops room : Nat} {key : ServiceKey} {d : ServiceDefinition}
    {name : String} (h : c.index.Reaches id hops key d) (hname : c.classOf? room d = some name) :
    ∃ last ≤ hops + room, ∃ key e, c.index.Reaches id last key e ∧ c.Tells e name := by
  induction room generalizing hops key d with
  | zero =>
    rcases tells_or_hop hname with htells | ⟨less, -, -, -, hroom, -⟩
    · exact ⟨hops, Nat.le_refl hops, key, d, h, htells⟩
    · omega
  | succ room ih =>
    rcases tells_or_hop hname with
      htells | ⟨less, other, next, e, hroom, hclass, halias, hcounts, he⟩
    · exact ⟨hops, by omega, key, d, h, htells⟩
    · obtain rfl : room = less := Nat.succ.inj hroom
      obtain ⟨last, hlast, hrest⟩ := ih (.hop h hclass halias hcounts) he
      exact ⟨last, by omega, hrest⟩

/-- **A service stands for the class that is told within the bound.** -/
theorem serviceClass?_eq_some_iff {name : String} :
    c.serviceClass? id = some name ↔
      ∃ hops ≤ c.maxAliasDepth, ∃ key d, c.index.Reaches id hops key d ∧ c.Tells d name := by
  constructor
  · intro h
    obtain ⟨d, hd, hname⟩ := Option.bind_eq_some_iff.mp h
    obtain ⟨key, hcounts⟩ := service?_eq_some_iff.mp hd
    obtain ⟨last, hlast, hrest⟩ := exists_tells_of_reaches (.start hcounts) hname
    exact ⟨last, by omega, hrest⟩
  · rintro ⟨hops, hbound, key, d, hreaches, htells⟩
    rw [serviceClass?_eq_classOf? hreaches hbound]
    exact classOf?_of_tells htells _

/-- A chain that goes on past the bound has no answer: the last definition within the bound is an
alias still. -/
theorem serviceClass?_eq_none_of_reaches {hops : Nat} {key : ServiceKey} {d : ServiceDefinition}
    (h : c.index.Reaches id hops key d) (hbound : hops = c.maxAliasDepth + 1) :
    c.serviceClass? id = none := by
  cases h with
  | start => omega
  | @hop hops _ _ d _ _ hbefore hclass halias _ =>
    have hroom : c.maxAliasDepth - hops = 0 := by omega
    rw [serviceClass?_eq_classOf? hbefore (by omega), hroom]
    exact (classOf?_of_aliasOf hclass halias 0).1

/-- **A service resolves along its alias chain, within the bound and no further.** It resolves to a
class exactly if the chain from its id reaches a definition that tells the class, in at most as many
hops as the bound allows. In particular a chain of just that many hops is followed to its end, one
that is longer by a hop has no answer, and neither has one that meets a key twice, whatever the
bound. -/
theorem service_resolves_along_chain (c : Container) (id : String) :
    (∀ name, c.serviceClass? id = some name ↔
      ∃ hops ≤ c.maxAliasDepth, ∃ key d, c.index.Reaches id hops key d ∧ c.Tells d name)
    ∧ (∀ key d name, c.index.Reaches id c.maxAliasDepth key d → c.Tells d name →
      c.serviceClass? id = some name)
    ∧ (∀ key d, c.index.Reaches id (c.maxAliasDepth + 1) key d → c.serviceClass? id = none)
    ∧ (∀ i j key d e, c.index.Reaches id i key d → c.index.Reaches id j key e → i < j →
      c.serviceClass? id = none) := by
  refine ⟨fun name => serviceClass?_eq_some_iff, ?_, ?_, ?_⟩
  · intro key d name hreaches htells
    exact serviceClass?_eq_some_iff.mpr ⟨_, Nat.le_refl _, key, d, hreaches, htells⟩
  · intro key d hreaches
    exact serviceClass?_eq_none_of_reaches hreaches rfl
  · intro i j key d e hi hj hij
    obtain ⟨last, f, hlast⟩ := hi.exists_of_return hj hij (c.maxAliasDepth + 1)
    exact serviceClass?_eq_none_of_reaches hlast rfl

/-- A class behind two aliases that spell ids in their own ways, the class of the first of them
blank, and two aliases of each other. -/
def aliasedServices : Lookups :=
  Index.ofEntries [.service ⟨"a", some " ", some "@B", none⟩,
    .service ⟨"b", none, some "'\\N\\C'", none⟩, .service ⟨"N\\C", some "", none, none⟩,
    .service ⟨"x", none, some "Y", none⟩, .service ⟨"y", none, some "@x", none⟩]

/-- With room for two hops the class is found under its own id, with room for one it is not, and the
two aliases of each other lead nowhere. -/
theorem service_resolves_along_chain_aliased :
    (Container.mk aliasedServices 2).serviceClass? "a" = some "N\\C"
      ∧ (Container.mk aliasedServices 1).serviceClass? "a" = none
      ∧ ∀ bound, (Container.mk aliasedServices bound).serviceClass? "x" = none := by
  have ha : aliasedServices.Reaches "a" 0 ⟨"a"⟩ ⟨"a", some " ", some "@B", none⟩ :=
    .start (by decide +kernel)
  have hb : aliasedServices.Reaches "a" 1 ⟨"b"⟩ ⟨"b", none, some "'\\N\\C'", none⟩ :=
    .hop ha (by decide +kernel) rfl (by decide +kernel)
  have hc : aliasedServices.Reaches "a" 2 ⟨"n\\c"⟩ ⟨"N\\C", some "", none, none⟩ :=
    .hop hb (by decide +kernel) rfl (by decide +kernel)
  have hx : aliasedServices.Reaches "x" 0 ⟨"x"⟩ ⟨"x", none, some "Y", none⟩ :=
    .start (by decide +kernel)
  have hy : aliasedServices.Reaches "x" 1 ⟨"y"⟩ ⟨"y", none, some "@x", none⟩ :=
    .hop hx (by decide +kernel) rfl (by decide +kernel)
  have hback : aliasedServices.Reaches "x" 2 ⟨"x"⟩ ⟨"x", none, some "Y", none⟩ :=
    .hop hy (by decide +kernel) rfl (by decide +kernel)
  refine ⟨?_, ?_, ?_⟩
  · apply (service_resolves_along_chain _ _).2.1 _ _ _ hc
    exact .ownId (by decide +kernel) rfl (by decide) (by decide +kernel)
  · exact (service_resolves_along_chain _ _).2.2.1 _ _ hc
  · intro bound
    exact (service_resolves_along_chain _ _).2.2.2 0 2 _ _ _ hx hback (by decide)

end Container

end Signpost
