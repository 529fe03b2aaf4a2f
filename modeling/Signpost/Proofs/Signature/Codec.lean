/-
`Proofs/Signature/Codec.lean` -- reading encoded signatures back.

The encoder writes a base, a delimiter and a payload one after the other and escapes nothing. What
the reader makes of the text is settled by one condition on the base alone, `Separable`: the payload
may hold anything, the delimiter and the `.` included. The condition looks different for a member
base under the delimiter `.`, where the first `.` belongs to the base; and there the reader asks
whether the *whole text* starts like a member, not whether the base does. The two questions have the
same answer because no start of a member holds a `.` and so none can reach across the delimiter.

Unions are a second layer on top: alternatives free of `|` are joined by it and are found again, the
empty ones at both ends and in the middle included. Since `|` is no delimiter, an encoded signature
is such an alternative as soon as its base and its payload are.

Specification: 4.1 and 8 (round trip).
-/
import Signpost.Signature.Call
import Signpost.Proofs.ClassPath
import Mathlib.Data.List.Forall2

set_option autoImplicit false

namespace Signpost

/-! ## What a call hands to the encoder -/

/-- The call has a base and a payload that a signature can carry, and the expected number of
arguments. -/
structure CallSite.Carries (call : CallSite) (expected : Nat) (base payload : String) : Prop where
  signature_eq : call.signature = some base
  base_ne : base ≠ ""
  length_eq : call.arguments.length = expected
  payload_eq : call.arguments.head?.bind Argument.payload? = some payload
  payload_ne : payload ≠ ""

/-- **The encoder, characterised.** It answers for exactly the calls that carry something, and what
it writes is the base, the delimiter and the payload. -/
theorem CallSite.encode?_eq_some_iff {call : CallSite} {d : Char} {expected : Nat} {s : String} :
    call.encode? d expected = some s ↔
      ∃ base payload, call.Carries expected base payload
        ∧ s = base ++ String.singleton d ++ payload := by
  constructor
  · intro h
    rw [encode?, encode] at h
    split at h
    · next base payload hbase hpayload =>
      split at h
      · cases h
      · next hguard =>
        simp only [Bool.or_eq_true, bne_iff_ne, not_or, String.isEmpty_iff, ne_eq,
          Decidable.not_not] at hguard
        refine ⟨base, payload, ⟨hbase, hguard.1.1, hguard.1.2, hpayload, hguard.2⟩, ?_⟩
        exact (Option.some.inj h).symm
    · cases h
  · rintro ⟨base, payload, h, rfl⟩
    rw [encode?, encode, h.signature_eq, h.payload_eq]
    have hguard : (base.isEmpty || call.arguments.length != expected || payload.isEmpty) = false := by
      rw [Bool.or_eq_false_iff, Bool.or_eq_false_iff, h.length_eq]
      refine ⟨⟨?_, bne_self_eq_false expected⟩, ?_⟩
      · rw [Bool.eq_false_iff, ne_eq, String.isEmpty_iff]
        exact h.base_ne
      · rw [Bool.eq_false_iff, ne_eq, String.isEmpty_iff]
        exact h.payload_ne
    simp only [hguard]
    rfl

namespace Signature

/-! ## The delimiter found again -/

/-- The condition on a base under which a delimiter after it is the one where the text is split. -/
def Separable (d : Char) (base : String) : Prop :=
  if d = '.' ∧ isMember base = true then base.toList.count '.' = 1 else d ∉ base.toList

instance (d : Char) (base : String) : Decidable (Separable d base) :=
  inferInstanceAs (Decidable
    (if d = '.' ∧ isMember base = true then base.toList.count '.' = 1 else d ∉ base.toList))

/-- No start of a member signature holds a dot. -/
theorem dot_notMem_memberStarts : ∀ start ∈ memberStarts, '.' ∉ start.toList := by
  decide

/-- Whether a text starts like a member is decided before its first `.`. -/
theorem isMember_append_dot (base payload : String) :
    isMember (base ++ String.singleton '.' ++ payload) = isMember base := by
  rw [Bool.eq_iff_iff, isMember, isMember, List.any_eq_true, List.any_eq_true]
  refine exists_congr fun start => and_congr_right fun hstart => ?_
  rw [Text.isSome_after?, Text.isSome_after?, String.toList_append, String.toList_append,
    String.toList_singleton, List.append_assoc, List.singleton_append,
    Text.prefix_append_cons_iff (dot_notMem_memberStarts start hstart)]

/-- The two ways of splitting in one condition on the left part. -/
theorem splitChars?_eq_some_iff {d : Char} {member : Bool} {cs base argument : List Char} :
    splitChars? d member cs = some (base, argument) ↔
      cs = base ++ d :: argument
        ∧ if d = '.' ∧ member = true then base.count '.' = 1 else d ∉ base := by
  rw [splitChars?]
  by_cases h : d = '.' ∧ member = true
  · obtain ⟨rfl, rfl⟩ := h
    simp only [Bool.true_and, beq_self_eq_true, if_true, Option.bind_eq_bind, and_self,
      Option.bind_eq_some_iff, Prod.exists, Text.cutChars?_eq_some_iff, Option.pure_def,
      Option.some.injEq, Prod.mk.injEq, Text.count_eq_one_iff]
    constructor
    · rintro ⟨owner, _, ⟨rfl, howner⟩, name, _, ⟨rfl, hname⟩, rfl, rfl⟩
      exact ⟨by simp, owner, name, rfl, howner, hname⟩
    · rintro ⟨rfl, owner, name, rfl, howner, hname⟩
      exact ⟨owner, name ++ '.' :: argument, ⟨by simp, howner⟩, name, argument, ⟨rfl, hname⟩,
        rfl, rfl⟩
  · have hguard : (member && d == '.') = false := by
      rw [Bool.eq_false_iff, ne_eq, Bool.and_eq_true, beq_iff_eq]
      exact fun hm => h ⟨hm.2, hm.1⟩
    rw [hguard, if_neg Bool.false_ne_true, if_neg h, Text.cutChars?_eq_some_iff]

/-- **The reader, characterised.** A text splits into a base and an argument exactly when it is the
one, the delimiter and the other, and the base is separable. -/
theorem split?_eq_some_iff {d : Char} {s base argument : String} :
    split? d s = some (base, argument) ↔
      s = base ++ String.singleton d ++ argument ∧ Separable d base := by
  have hchars : split? d s = some (base, argument) ↔
      splitChars? d (isMember s) s.toList = some (base.toList, argument.toList) := by
    rw [split?, Option.map_eq_some_iff]
    constructor
    · rintro ⟨⟨b, a⟩, h, heq⟩
      rw [Prod.mk.injEq] at heq
      rw [h, ← heq.1, ← heq.2, String.toList_ofList, String.toList_ofList]
    · intro h
      exact ⟨_, h, by simp only [String.ofList_toList]⟩
  rw [hchars, splitChars?_eq_some_iff, ← String.toList_inj, String.toList_append,
    String.toList_append, String.toList_singleton, List.append_assoc, List.singleton_append]
  refine and_congr_right fun htext => ?_
  -- only under `.` does the reader ask about the whole text, and there it may ask about the base
  have hmember : d = '.' → isMember s = isMember base := by
    rintro rfl
    rw [← isMember_append_dot base argument]
    congr 1
    rw [← String.toList_inj, htext]
    simp
  rw [Separable]
  by_cases hd : d = '.'
  · rw [hmember hd]
  · simp only [hd, false_and, if_false]

/-! ## Bases of members -/

/-- A delimiter is none of the marks of a signature and no part of a word. -/
theorem isDelimiter_iff {d : Char} :
    isDelimiter d = true ↔ d ≠ '\\' ∧ d ≠ deferredMark ∧ d ≠ unionMark ∧ Text.isWord d = false
      ∧ Text.isBlank d = false := by
  simp only [isDelimiter, Text.isWord, Bool.not_eq_true', Bool.or_eq_false_iff, beq_eq_false_iff_ne,
    ne_eq]
  constructor
  · rintro ⟨⟨⟨⟨⟨hsep, hdeferred⟩, hunion⟩, hline⟩, halnum⟩, hblank⟩
    exact ⟨hsep, hdeferred, hunion, ⟨halnum, hline⟩, hblank⟩
  · rintro ⟨hsep, hdeferred, hunion, ⟨halnum, hline⟩, hblank⟩
    exact ⟨⟨⟨⟨⟨hsep, hdeferred⟩, hunion⟩, hline⟩, halnum⟩, hblank⟩

/-- The signature of a member is taken for one. -/
theorem isMember_memberSignature {kind : Char} (hkind : kind ∈ memberKinds) (path : ClassPath)
    (name : Identifier) : isMember (memberSignature kind path name) = true := by
  have hstart : String.ofList ['#', kind, '#', 'C'] ∈ memberStarts := by
    rcases eq_of_mem_memberKinds hkind with rfl | rfl | rfl
    all_goals decide
  rw [isMember, List.any_eq_true]
  refine ⟨_, hstart, Text.isSome_after?.mpr ?_⟩
  rw [toList_memberSignature, String.toList_ofList]
  exact ⟨'\\' :: (path.text.toList ++ '.' :: name.text.toList), rfl⟩

/-- The kinds are letters. -/
theorem isWord_of_mem_memberKinds {kind : Char} (hkind : kind ∈ memberKinds) :
    Text.isWord kind = true := by
  rcases eq_of_mem_memberKinds hkind with rfl | rfl | rfl
  all_goals decide

/-- Of the characters that are no part of a word, a member signature holds `#`, the namespace
separator and `.`, the last one once. -/
theorem notMem_memberSignature {kind c : Char} (hkind : kind ∈ memberKinds) (path : ClassPath)
    (name : Identifier) (hword : Text.isWord c = false) (hmark : c ≠ '#')
    (hsep : c ≠ ClassName.separator) (hdot : c ≠ '.') :
    c ∉ (memberSignature kind path name).toList := by
  have hc : ∀ x : Char, Text.isWord x = true → c ≠ x :=
    fun x hx => Ne.symm (Text.ne_of_isWord hx hword)
  have hkc : c ≠ kind := hc kind (isWord_of_mem_memberKinds hkind)
  have hCc : c ≠ 'C' := hc 'C' (by decide)
  rw [toList_memberSignature, List.mem_append, List.mem_append]
  rintro ((h | h) | h)
  · simp only [List.mem_cons, List.not_mem_nil, or_false] at h
    rcases h with h | h | h | h | h
    · exact hmark h
    · exact hkc h
    · exact hmark h
    · exact hCc h
    · exact hsep h
  · exact path.notMem_text hword hsep h
  · rcases List.mem_cons.mp h with h | h
    · exact hdot h
    · exact name.notMem_text hword h

/-- It holds one dot, the one before the name. -/
theorem count_dot_memberSignature {kind : Char} (hkind : kind ∈ memberKinds) (path : ClassPath)
    (name : Identifier) : (memberSignature kind path name).toList.count '.' = 1 := by
  rw [Text.count_eq_one_iff]
  refine ⟨_, _, toList_memberSignature path name kind, ?_, name.notMem_text (by decide)⟩
  rw [List.mem_append, not_or]
  refine ⟨?_, path.notMem_text (by decide) (by decide)⟩
  rcases eq_of_mem_memberKinds hkind with rfl | rfl | rfl
  all_goals decide

/-- **Members are separable** under every delimiter, `.` included. -/
theorem separable_memberSignature {d kind : Char} (hd : isDelimiter d = true)
    (hkind : kind ∈ memberKinds) (path : ClassPath) (name : Identifier) :
    Separable d (memberSignature kind path name) := by
  obtain ⟨hsep, hmark, -, hword, -⟩ := isDelimiter_iff.mp hd
  rw [Separable]
  by_cases hdot : d = '.'
  · rw [if_pos ⟨hdot, isMember_memberSignature hkind path name⟩]
    exact count_dot_memberSignature hkind path name
  · rw [if_neg fun h => hdot h.1]
    exact notMem_memberSignature hkind path name hword hmark hsep hdot

/-- **Encoded signatures are read back.** A call that carries a base and a payload is encoded, and
splitting the result gives the two back exactly when the base is separable, whatever the payload
holds. The bases of members always are. Conversely, whatever a text is split into joins to it. -/
theorem split_encoded_iff_separable :
    (∀ (d : Char) (call : CallSite) (expected : Nat) (base payload : String),
      isDelimiter d = true → call.Carries expected base payload →
        ∃ s, call.encode? d expected = some s
          ∧ (split? d s = some (base, payload) ↔ Separable d base)
          ∧ ∀ (path : ClassPath) (name : Identifier), base ∈ memberSignatures path name →
              split? d s = some (base, payload))
    ∧ ∀ (d : Char) (s base payload : String), split? d s = some (base, payload) →
        s = base ++ String.singleton d ++ payload := by
  refine ⟨?_, fun d s base payload h => (split?_eq_some_iff.mp h).1⟩
  intro d call expected base payload hd hcall
  refine ⟨base ++ String.singleton d ++ payload,
    CallSite.encode?_eq_some_iff.mpr ⟨base, payload, hcall, rfl⟩, ?_, ?_⟩
  · rw [split?_eq_some_iff]
    exact and_iff_right rfl
  · intro path name hbase
    rw [memberSignatures_eq] at hbase
    obtain ⟨kind, hkind, rfl⟩ := List.mem_map.mp hbase
    exact split?_eq_some_iff.mpr ⟨rfl, separable_memberSignature hd hkind path name⟩

/-- The first `.` belongs to the base, those of the payload to the payload. -/
theorem split_encoded_iff_separable_dotted :
    ∃ s, CallSite.encode? ⟨some "#M#C\\App.get", [.stringLiteral "app.mailer|#x"]⟩ '.' 1 = some s
      ∧ split? '.' s = some ("#M#C\\App.get", "app.mailer|#x") := by
  obtain ⟨s, hs, hsplit, -⟩ := split_encoded_iff_separable.1 '.'
    ⟨some "#M#C\\App.get", [.stringLiteral "app.mailer|#x"]⟩ 1 "#M#C\\App.get" "app.mailer|#x"
    (by decide) ⟨rfl, by decide, rfl, rfl, by decide⟩
  exact ⟨s, hs, hsplit.mpr (by decide)⟩

/-! ## Unions -/

/-- The alternatives of a union joined into one signature. -/
def union (alternatives : List String) : String := Text.join unionMark alternatives

end Signature

/-- The call carries a base and a payload that are found again inside a union. -/
structure CallSite.Alternative (d : Char) (expected : Nat) (call : CallSite)
    (part : String × String) : Prop where
  carries : call.Carries expected part.1 part.2
  separable : Signature.Separable d part.1
  base_free : Signature.unionMark ∉ part.1.toList
  payload_free : Signature.unionMark ∉ part.2.toList

namespace CallSite.Alternative

variable {d : Char} {expected : Nat} {call : CallSite} {part : String × String}

/-- An alternative is what its call is encoded as. -/
theorem encode?_eq (h : call.Alternative d expected part) :
    call.encode? d expected = some (part.1 ++ String.singleton d ++ part.2) :=
  encode?_eq_some_iff.mpr ⟨part.1, part.2, h.carries, rfl⟩

/-- It is taken apart again into the same two parts. -/
theorem split?_eq (h : call.Alternative d expected part) :
    Signature.split? d (part.1 ++ String.singleton d ++ part.2) = some part :=
  Signature.split?_eq_some_iff.mpr ⟨rfl, h.separable⟩

/-- What the encoder writes for an alternative is free of `|`. -/
theorem encoded_free (h : call.Alternative d expected part)
    (hd : Signature.isDelimiter d = true) :
    Signature.unionMark ∉ (part.1 ++ String.singleton d ++ part.2).toList := by
  have hdu : d ≠ Signature.unionMark := (Signature.isDelimiter_iff.mp hd).2.2.1
  rw [String.toList_append, String.toList_append, String.toList_singleton, List.mem_append,
    List.mem_append, List.mem_singleton]
  rintro ((hm | hm) | hm)
  · exact h.base_free hm
  · exact hdu hm.symm
  · exact h.payload_free hm

end CallSite.Alternative

namespace Signature

/-- The branches of any text join to the text. -/
theorem union_branches (s : String) : union (branches s) = s := Text.join_split unionMark s

/-- A union of texts without a `|` has just these branches. -/
theorem branches_union {alternatives : List String} (hne : alternatives ≠ [])
    (hfree : ∀ a ∈ alternatives, unionMark ∉ a.toList) :
    branches (union alternatives) = alternatives :=
  Text.split_join hne hfree

/-- The union of one text is the text. -/
theorem union_singleton (s : String) : union [s] = s := by
  rw [union, Text.join, String.intercalate_singleton]

/-- A text free of `|` is its own only alternative. -/
theorem branches_eq_singleton {s : String} (h : unionMark ∉ s.toList) : branches s = [s] := by
  have hbranches : branches (union [s]) = [s] :=
    branches_union (List.cons_ne_nil s []) (by simpa using h)
  rw [union_singleton] at hbranches
  exact hbranches

section Calls

variable {d : Char} {expected : CallSite → Nat} {calls : List CallSite}
  {parts : List (String × String)}

/-- Each part comes from a call. -/
theorem exists_alternative_of_mem
    (h : List.Forall₂ (fun call part => call.Alternative d (expected call) part) calls parts)
    {part : String × String} (hpart : part ∈ parts) :
    ∃ call : CallSite, call.Alternative d (expected call) part := by
  induction h with
  | nil => exact absurd hpart List.not_mem_nil
  | @cons call _ _ _ hcall _ ih =>
    rcases List.mem_cons.mp hpart with rfl | hpart
    · exact ⟨call, hcall⟩
    · exact ih hpart

/-- What the encoder writes for a list of calls, before the results are joined. -/
theorem map_encode?_of_alternatives
    (h : List.Forall₂ (fun call part => call.Alternative d (expected call) part) calls parts) :
    calls.map (fun call => call.encode? d (expected call))
      = (parts.map fun part => part.1 ++ String.singleton d ++ part.2).map some := by
  induction h with
  | nil => rfl
  | cons hcall _ ih => rw [List.map_cons, hcall.encode?_eq, ih, List.map_cons, List.map_cons]

end Calls

/-- **Unions are read back.** Encoding calls, joining the results and reading every branch gives the
bases and payloads in order. Behind it stands that taking a union apart and joining it are inverse:
on every text in one direction, and on every non-empty list of alternatives free of `|` in the
other, empty alternatives included. -/
theorem union_of_encoded_reads_back :
    (∀ (d : Char) (expected : CallSite → Nat) (calls : List CallSite)
        (parts : List (String × String)),
      isDelimiter d = true → calls ≠ [] →
      List.Forall₂ (fun call part => call.Alternative d (expected call) part) calls parts →
        ∃ signatures, calls.map (fun call => call.encode? d (expected call)) = signatures.map some
          ∧ (branches (union signatures)).map (split? d) = parts.map some)
    ∧ (∀ s, union (branches s) = s)
    ∧ (∀ s, ∀ branch ∈ branches s, unionMark ∉ branch.toList)
    ∧ ∀ alternatives, alternatives ≠ [] → (∀ a ∈ alternatives, unionMark ∉ a.toList) →
        branches (union alternatives) = alternatives := by
  refine ⟨?_, union_branches,
    fun s branch hbranch => Text.separator_notMem_of_mem_split hbranch,
    fun alternatives hne hfree => branches_union hne hfree⟩
  intro d expected calls parts hd hne hparts
  refine ⟨_, map_encode?_of_alternatives hparts, ?_⟩
  rw [branches_union]
  · rw [List.map_map]
    refine List.map_congr_left fun part hpart => ?_
    obtain ⟨call, hcall⟩ := exists_alternative_of_mem hparts hpart
    exact hcall.split?_eq
  · intro hnil
    exact hne (List.forall₂_nil_right_iff.mp (List.map_eq_nil_iff.mp hnil ▸ hparts))
  · intro a ha
    obtain ⟨part, hpart, rfl⟩ := List.mem_map.mp ha
    obtain ⟨call, hcall⟩ := exists_alternative_of_mem hparts hpart
    exact hcall.encoded_free hd

/-- Two calls in one union, the second with the delimiter in its payload. -/
theorem union_of_encoded_reads_back_pair :
    ∃ signatures,
      [CallSite.encode? ⟨some "#M#C\\A.get", [.stringLiteral "x"]⟩ '?' 1,
        CallSite.encode? ⟨some "#F\\locate", [.classConstant "#K#C\\B.?"]⟩ '?' 1]
          = signatures.map some
      ∧ (branches (union signatures)).map (split? '?')
          = [some ("#M#C\\A.get", "x"), some ("#F\\locate", "#K#C\\B.?")] := by
  exact union_of_encoded_reads_back.1 '?' (fun _ => 1)
    [⟨some "#M#C\\A.get", [.stringLiteral "x"]⟩,
      ⟨some "#F\\locate", [.classConstant "#K#C\\B.?"]⟩]
    [("#M#C\\A.get", "x"), ("#F\\locate", "#K#C\\B.?")] (by decide) (by decide)
    (.cons ⟨⟨rfl, by decide, rfl, rfl, by decide⟩, by decide, by decide, by decide⟩
      (.cons ⟨⟨rfl, by decide, rfl, rfl, by decide⟩, by decide, by decide, by decide⟩ .nil))

end Signature

end Signpost
