/-
`Proofs/Json/Record.lean` -- records that read back.

A writer and a reader fit together when the reader gives back whatever the writer wrote,
`ReadsBack`. For records this is a matter of slots. Each field of a record has a slot, which is
empty if the field is left out, and the written object holds the full ones in order. Since the names
are different, each name finds its own slot again, empty or full, and what is left to show of a
record is that every slot alone gives its field back. `readsBack_of_slots` says so once for all
records.

A tagged record is held as a whole before it is read, which has its limits: numbers have to fit a
double and nesting is bounded. A double has a place for every whole number of 32 bits.
-/
import Signpost.Json.Decode
import Signpost.Proofs.Json.RoundTrip

set_option autoImplicit false

namespace Signpost.Json

/-- The reader gives back what the writer writes. -/
structure ReadsBack {α : Type} (write : α → Json) (read? : Json → Option α) : Prop where
  plain : ∀ a, Plain (write a)
  /-- Null stands for nothing, so nothing else is written as null. -/
  ne_null : ∀ a, write a ≠ .null
  back : ∀ a, read? (write a) = some a

/-! ## Plain values -/

/-- A text is read back from itself. -/
theorem readsBack_text : ReadsBack Json.str text? where
  plain := .str
  ne_null := nofun
  back := fun _ => rfl

/-- A number of 32 bits is read back from its value, which fits. -/
theorem readsBack_uint32 : ReadsBack (fun n : UInt32 => .nat n.toNat) uint32? where
  plain := fun n => .nat n.toNat
  ne_null := nofun
  back := by
    intro n
    simp [uint32?, natBelow?, n.toNat_lt_size]

theorem readsBack_uint16 : ReadsBack (fun n : UInt16 => .nat n.toNat) uint16? where
  plain := fun n => .nat n.toNat
  ne_null := nofun
  back := by
    intro n
    simp [uint16?, natBelow?, n.toNat_lt_size]

theorem readsBack_uint64 : ReadsBack (fun n : UInt64 => .nat n.toNat) uint64? where
  plain := fun n => .nat n.toNat
  ne_null := nofun
  back := by
    intro n
    simp [uint64?, natBelow?, n.toNat_lt_size]

/-- A truth value is read back from itself. -/
theorem readsBack_bool : ReadsBack Json.bool bool? where
  plain := .bool
  ne_null := nofun
  back := fun _ => rfl

/-- A character is read back from the text that consists of it. -/
theorem readsBack_char : ReadsBack (fun c : Char => .str c.toString) char? where
  plain := fun c => .str c.toString
  ne_null := nofun
  back := by
    intro c
    simp [char?]

/-- A value is read back from its name when the names are told apart. -/
theorem readsBack_tag {α : Type} {tag : α → String} {ofTag? : String → Option α}
    (h : ∀ a, ofTag? (tag a) = some a) :
    ReadsBack (fun a => .str (tag a)) (fun v => v.constant?.bind ofTag?) where
  plain := fun a => .str (tag a)
  ne_null := nofun
  back := h

/-- Reading the members of a list succeeds when it does for each. -/
theorem mapM_map_of_forall {α β γ : Type} {f : α → β} {g : α → γ} {read? : β → Option γ}
    {xs : List α} (h : ∀ a ∈ xs, read? (f a) = some (g a)) :
    (xs.map f).mapM read? = some (xs.map g) := by
  induction xs with
  | nil => rfl
  | cons a xs ih =>
    rw [List.map_cons, List.mapM_cons, h a List.mem_cons_self,
      ih fun b hb => h b (List.mem_cons_of_mem a hb)]
    rfl

namespace ReadsBack

variable {α : Type} {write : α → Json} {read? : Json → Option α}

/-- A list is read back member by member. -/
theorem list (h : ReadsBack write read?) :
    ReadsBack (fun xs : List α => .arr (xs.map write)) (list? read?) where
  plain := by
    intro xs
    refine .arr fun v hv => ?_
    obtain ⟨a, -, rfl⟩ := List.mem_map.mp hv
    exact h.plain a
  ne_null := nofun
  back := by
    intro xs
    have hitems := mapM_map_of_forall (f := write) (g := id) fun a (_ : a ∈ xs) => h.back a
    rwa [List.map_id] at hitems

/-! ### Slots that give their field back -/

/-- A field that has to be there is read back when it is. -/
theorem required (h : ReadsBack write read?) (a : α) :
    Json.required read? (some (write a)) = some a := h.back a

/-- A field that is there is not left to its default. -/
theorem orElse (h : ReadsBack write read?) (default a : α) :
    Json.orElse default read? (some (write a)) = some a := h.back a

/-- A field without a value is left out and read back as no value. -/
theorem optional (h : ReadsBack write read?) (o : Option α) :
    Json.optional read? (o.map write) = some o := by
  cases o with
  | none => rfl
  | some a =>
    rw [Option.map_some, Json.optional, h.back, Option.map_some]
    exact h.ne_null a

/-- An empty list is left out and read back as the default. -/
theorem orElse_nil (h : ReadsBack write read?) (xs : List α) :
    Json.orElse [] (list? read?) (if xs.isEmpty then none else some (.arr (xs.map write)))
      = some xs := by
  split
  · next hempty =>
    rw [List.isEmpty_iff.mp hempty]
    rfl
  · exact h.list.back xs

/-! ### Texts -/

/-- **What is printed is read back**, whatever the texts look like. -/
theorem through (h : ReadsBack write read?) (c : Codec) (a : α) :
    (c.read? (c.print (write a))).bind read? = some a := by
  rw [c.back (h.plain a), Option.bind_some, h.back]

end ReadsBack

/-! ## Slots of a record -/

/-- A field of a record, as it is written: its name, and its value unless it is left out. -/
structure Slot (α : Type) where
  name : String
  write : α → Option Json
  plain : ∀ a v, write a = some v → Plain v

namespace Slot

variable {α β : Type} {write : β → Json} {read? : Json → Option β}

/-- A field that is always written. -/
def always (name : String) (get : α → β) (h : ReadsBack write read?) : Slot α where
  name := name
  write := fun a => some (write (get a))
  plain := by
    rintro a v ⟨⟩
    exact h.plain (get a)

/-- A field that is left out when there is nothing to say. -/
def whenSome (name : String) (get : α → Option β) (h : ReadsBack write read?) : Slot α where
  name := name
  write := fun a => (get a).map write
  plain := by
    intro a v hv
    obtain ⟨b, -, rfl⟩ := Option.map_eq_some_iff.mp hv
    exact h.plain b

/-- A list that is left out when it is empty. -/
def unlessEmpty (name : String) (get : α → List β) (h : ReadsBack write read?) : Slot α where
  name := name
  write := fun a => if (get a).isEmpty then none else some (.arr ((get a).map write))
  plain := by
    intro a v hv
    obtain ⟨-, ⟨⟩⟩ := Option.ite_none_left_eq_some.mp hv
    exact h.list.plain (get a)

end Slot

/-- The fields of an object with the given slots. -/
def fieldsOf (names : List String) (slots : List (Option Json)) : List (String × Json) :=
  (names.zip slots).flatMap fun s => optionalField s.1 id s.2

/-- Fields are written one after the other. -/
theorem fieldsOf_cons (name : String) (names : List String) (slot : Option Json)
    (slots : List (Option Json)) : fieldsOf (name :: names) (slot :: slots)
      = optionalField name id slot ++ fieldsOf names slots := rfl

/-- A slot that is filled is written under its name, and one that is not leaves no field. -/
theorem mem_optionalField_id_iff {name : String} {slot : Option Json} {e : String × Json} :
    e ∈ optionalField name id slot ↔ e.1 = name ∧ slot = some e.2 := by
  cases slot with
  | none => simp [optionalField]
  | some v => simp [optionalField, Prod.ext_iff, eq_comm]

/-- The fields of a record are its filled slots under their names. -/
theorem mem_fieldsOf_iff {names : List String} {slots : List (Option Json)} {e : String × Json} :
    e ∈ fieldsOf names slots ↔ (e.1, some e.2) ∈ names.zip slots := by
  simp only [fieldsOf, List.mem_flatMap, mem_optionalField_id_iff]
  constructor
  · rintro ⟨s, hs, hname, hslot⟩
    rwa [hname, ← hslot]
  · exact fun h => ⟨_, h, rfl, rfl⟩

/-- Of all the fields, those of a name are what stands in its slot. -/
theorem filter_fieldsOf {names : List String} (hnodup : names.Nodup) {slots : List (Option Json)}
    {s : String × Option Json} (hs : s ∈ names.zip slots) :
    (fieldsOf names slots).filter (·.1 == s.1) = optionalField s.1 id s.2 := by
  induction names generalizing slots with
  | nil => simp at hs
  | cons name names ih =>
    cases slots with
    | nil => simp at hs
    | cons slot slots =>
      obtain ⟨hname, hnames⟩ := List.nodup_cons.mp hnodup
      rw [fieldsOf_cons, List.filter_append]
      rcases List.mem_cons.mp hs with rfl | hs
      · -- all of the first slot is kept, and nothing after it, where the names are others
        have hown : ∀ e ∈ optionalField name id slot, (e.1 == name) = true := by
          intro e he
          exact beq_iff_eq.mpr (mem_optionalField_id_iff.mp he).1
        have hothers : ∀ e ∈ fieldsOf names slots, ¬(e.1 == name) = true := by
          intro e he heq
          rw [beq_iff_eq] at heq
          exact hname (heq ▸ (List.of_mem_zip (mem_fieldsOf_iff.mp he)).1)
        rw [List.filter_eq_self.mpr hown, List.filter_eq_nil_iff.mpr hothers, List.append_nil]
      · -- the slot is further on, so what the first one holds has another name
        have hother : ∀ e ∈ optionalField name id slot, ¬(e.1 == s.1) = true := by
          intro e he heq
          rw [beq_iff_eq, (mem_optionalField_id_iff.mp he).1] at heq
          exact hname (heq ▸ (List.of_mem_zip hs).1)
        rw [List.filter_eq_nil_iff.mpr hother, List.nil_append, ih hnames hs]

/-- Each name finds its slot again. -/
theorem field?_fieldsOf {names : List String} (hnodup : names.Nodup) {slots : List (Option Json)}
    {s : String × Option Json} (hs : s ∈ names.zip slots) :
    field? (fieldsOf names slots) s.1 = some s.2 := by
  rw [field?, filter_fieldsOf hnodup hs]
  cases s.2 with
  | none => rfl
  | some v => rfl

/-- **The slots of a written record are found again.** -/
theorem record?_fieldsOf {names : List String} (hnodup : names.Nodup) (slots : List (Option Json))
    (hlength : names.length = slots.length) :
    (Json.obj (fieldsOf names slots)).record? names = some slots := by
  -- names and slots are the two halves of one list of pairs
  have hpairs := mapM_map_of_forall (f := Prod.fst) (g := Prod.snd)
    fun s (hs : s ∈ names.zip slots) => field?_fieldsOf hnodup hs
  rwa [List.map_fst_zip hlength.le, List.map_snd_zip hlength.ge] at hpairs

/-- **Records read back slot by slot.** A record written by slots of different names is read back if
the reader makes the record from what its slots hold. -/
theorem readsBack_of_slots {α : Type} {write : α → Json} {read? : Json → Option α}
    (slots : List (Slot α)) (hnodup : (slots.map Slot.name).Nodup)
    (hwrite : ∀ a, write a = .obj (fieldsOf (slots.map Slot.name) (slots.map (·.write a))))
    (hread : ∀ a v, v.record? (slots.map Slot.name) = some (slots.map (·.write a)) →
      read? v = some a) : ReadsBack write read? where
  plain := by
    intro a
    rw [hwrite]
    refine .obj fun e he => ?_
    have hslot : some e.2 ∈ slots.map (·.write a) := (List.of_mem_zip (mem_fieldsOf_iff.mp he)).2
    obtain ⟨slot, -, hslot⟩ := List.mem_map.mp hslot
    exact slot.plain a e.2 hslot
  ne_null := by
    intro a
    rw [hwrite]
    nofun
  back := by
    intro a
    refine hread a _ ?_
    rw [hwrite]
    exact record?_fieldsOf hnodup _ (by rw [List.length_map, List.length_map])

/-! ## Tagged records -/

/-- A record with its kind in front is taken apart into the kind and the other fields, of which none
may be called `kind`. -/
theorem tagged?_obj {kind : String} {fields : List (String × Json)}
    (h : ∀ f ∈ fields, f.1 ≠ "kind") :
    (Json.obj (("kind", .str kind) :: fields)).tagged? = some (kind, .obj fields) := by
  have hnone : fields.filter (·.1 == "kind") = [] := by
    rw [List.filter_eq_nil_iff]
    exact fun f hf heq => h f hf (beq_iff_eq.mp heq)
  have hrest : fields.filter (·.1 != "kind") = fields := by
    rw [List.filter_eq_self]
    exact fun f hf => bne_iff_ne.mpr (h f hf)
  have hkind : field? (("kind", .str kind) :: fields) "kind" = some (some (.str kind)) := by
    rw [field?, List.filter_cons_of_pos (by simp), hnone]
  rw [tagged?, hkind, List.filter_cons_of_neg (by simp), hrest]

section Holding

open NumberLiteral

/-- Digits read on only make a number larger. -/
theorem le_foldl_digits (n : Nat) (ds : List Char) :
    n ≤ ds.foldl (fun n c => n * 10 + (c.toNat - 48)) n := by
  induction ds generalizing n with
  | nil => exact le_rfl
  | cons c ds ih =>
    calc n ≤ n * 10 + (c.toNat - 48) := by omega
      _ ≤ _ := ih _

/-- Digits of a number of 64 bits are taken in to the last. -/
theorem append_of_lt (n : Nat) (ds : List Char)
    (h : ds.foldl (fun n c => n * 10 + (c.toNat - 48)) n < UInt64.size) :
    append n ds = (ds.foldl (fun n c => n * 10 + (c.toNat - 48)) n, []) := by
  induction ds generalizing n with
  | nil => rfl
  | cons c ds ih =>
    have hmore : Text.natOfDigits [c] + n * 10 = n * 10 + (c.toNat - 48) := by
      simp [Text.natOfDigits, Nat.add_comm]
    have hlt : n * 10 + (c.toNat - 48) < UInt64.size := (le_foldl_digits _ ds).trans_lt h
    rw [append, hmore, if_pos hlt, ih _ h]
    rfl

/-- A number of 64 bits is gathered without loss, since no start of its digits is larger. -/
theorem toDecimal_toDigits {n : Nat} (h : n < UInt64.size) :
    (NumberLiteral.mk false (Nat.toDigits 10 n) none none).toDecimal = ⟨n, 0⟩ := by
  have hvalue := Token.natOfDigits_toDigits n
  have happend : append 0 (Nat.toDigits 10 n) = (n, []) := by
    rw [append_of_lt]
    · exact congrArg (·, []) hvalue
    · exact hvalue.trans_lt h
  simp [toDecimal, happend, append, scale]

/-- A number with no more binary digits than a double has is one. -/
theorem roundDouble_of_lt {n : Nat} (h : n < Nat.pow 2 53) : Text.roundDouble n = n := by
  have hunit : n.log2 - 52 = 0 := by
    by_cases hn : n = 0
    · rw [hn]
      rfl
    · have hlog := (Nat.log2_lt hn).mpr h
      omega
  rw [Text.roundDouble, hunit]
  simp [Text.roundTo, Nat.mod_one]

/-- A text can be held at any depth. -/
theorem holdable_str (level : Nat) (s : String) : (Json.str s).holdable level = true := by
  rw [holdable]

/-- Fields can be held when the value of each can. -/
theorem holdableFields_of_forall {level : Nat} {fields : List (String × Json)}
    (h : ∀ f ∈ fields, f.2.holdable level = true) : holdableFields level fields = true := by
  induction fields with
  | nil => rfl
  | cons f fields ih =>
    rw [holdableFields, h f List.mem_cons_self, Bool.true_and]
    exact ih fun g hg => h g (List.mem_cons_of_mem f hg)

/-- An object can be held when it is not nested too deeply and its fields can. -/
theorem holdable_obj {level : Nat} {fields : List (String × Json)}
    (hlevel : level + 1 < heldLevels) (h : ∀ f ∈ fields, f.2.holdable (level + 1) = true) :
    (Json.obj fields).holdable level = true := by
  rw [holdable, holdableFields_of_forall h, decide_eq_true hlevel, Bool.true_and]

/-- A whole number of 32 bits can be held at any level. -/
theorem holdable_nat {n : Nat} (level : Nat) (h : n < UInt32.size) :
    (Json.nat n).holdable level = true := by
  have hdigits : n < UInt64.size := h.trans (by decide)
  have hround : Text.roundDouble n = n := roundDouble_of_lt (h.trans (by decide))
  have hone : Text.roundDouble 1 = 1 := roundDouble_of_lt (by decide)
  have hbound : n < Text.doubleBound := h.trans (by decide +kernel)
  rw [holdable, isTooLarge]
  -- digits and power are rounded one by one, and neither rounding changes anything
  simp [toDecimal_toDigits hdigits, hround, hone, hbound]

end Holding

end Signpost.Json
