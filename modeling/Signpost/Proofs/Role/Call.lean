/-
`Proofs/Role/Call.lean` -- calls read from both ends.

The call around an argument is found by going back from the argument; the arguments of a call are
found by going on from its parenthesis. Both walks count brackets, and both take the three kinds of
brackets for one. `Run m w k n` is what they have in common: from depth `m` the tokens `w` lead to
depth `n`, nothing is closed that is not open, and `k` commas stand outside all brackets. Going back
over such a run takes depth `n` to depth `m` and counts `k` commas; going on over it takes depth `m`
to depth `n` and finishes `k` arguments.

A run between two points at depth 0 falls into the pieces between its outer commas. That is the form
in which the two walks are compared: a piece is an argument, and the mark in front of it is what the
walk back looks for first.
-/
import Signpost.Role.Call
import Signpost.Proofs.Document.Siblings

set_option autoImplicit false

namespace Signpost.Document

variable {d : Document} {t : NodeId}

/-! ## Marks -/

/-- A token is one mark at most. -/
theorem isPunct_eq_of_isPunct {mark : String} (h : d.isPunct mark t = true) (other : String) :
    d.isPunct other t = (mark == other) := by
  rw [isPunct, Bool.and_eq_true, beq_iff_eq] at h
  rw [isPunct, h.1, h.2, Bool.true_and]

/-- What is no mark is none in particular. -/
theorem isPunct_eq_false_of_isKind (h : d.isKind .punct t = false) (mark : String) :
    d.isPunct mark t = false := by
  rw [isPunct, h, Bool.false_and]

/-- Whitespace is no mark. -/
theorem isKind_punct_of_isWhitespace (h : d.isWhitespace t = true) : d.isKind .punct t = false := by
  rw [isWhitespace, isKind] at h
  rw [isKind]
  cases hnode : d.node? t with
  | none => rfl
  | some node =>
    rw [hnode] at h
    have hkind : node.kind = .whitespace := of_decide_eq_true h
    rw [Option.any_some, hkind]
    rfl

/-- No mark is whitespace, so walks over whitespace stop at every mark. -/
theorem isWhitespace_of_isPunct {mark : String} (h : d.isPunct mark t = true) :
    d.isWhitespace t = false := by
  by_contra hblank
  have hkind := isKind_punct_of_isWhitespace (Bool.eq_true_of_not_eq_false hblank)
  rw [isPunct_eq_false_of_isKind hkind] at h
  cases h

/-- Whether a mark opens a bracket is a matter of its text. -/
theorem isOpening_eq_of_isPunct {mark : String} (h : d.isPunct mark t = true) :
    d.isOpening t = (mark == "(" || mark == "[" || mark == "\x7b") := by
  rw [isOpening, isPunct_eq_of_isPunct h, isPunct_eq_of_isPunct h, isPunct_eq_of_isPunct h]

/-- So is whether it closes one. -/
theorem isClosing_eq_of_isPunct {mark : String} (h : d.isPunct mark t = true) :
    d.isClosing t = (mark == ")" || mark == "]" || mark == "\x7d") := by
  rw [isClosing, isPunct_eq_of_isPunct h, isPunct_eq_of_isPunct h, isPunct_eq_of_isPunct h]

/-- A bracket that opens neither closes nor separates, and it is no whitespace. -/
theorem isOpening_only (h : d.isOpening t = true) :
    d.isClosing t = false ∧ d.isPunct "," t = false ∧ d.isWhitespace t = false := by
  rw [isOpening, Bool.or_eq_true, Bool.or_eq_true] at h
  rcases h with (h | h) | h <;>
    exact ⟨isClosing_eq_of_isPunct h, isPunct_eq_of_isPunct h _, isWhitespace_of_isPunct h⟩

/-- What closes a bracket is nothing else. -/
theorem isClosing_only (h : d.isClosing t = true) :
    d.isOpening t = false ∧ d.isPunct "," t = false ∧ d.isWhitespace t = false := by
  rw [isClosing, Bool.or_eq_true, Bool.or_eq_true] at h
  rcases h with (h | h) | h <;>
    exact ⟨isOpening_eq_of_isPunct h, isPunct_eq_of_isPunct h _, isWhitespace_of_isPunct h⟩

/-- The marks behind which an argument begins. -/
def beginsArgument (d : Document) (mark : NodeId) : Bool := d.isPunct "(" mark || d.isPunct "," mark

/-- The marks before which an argument ends. -/
def endsArgument (d : Document) (mark : NodeId) : Bool := d.isPunct ")" mark || d.isPunct "," mark

/-- An argument begins behind an opening parenthesis or a comma. -/
theorem beginsArgument_iff :
    d.beginsArgument t = true ↔ d.isPunct "(" t = true ∨ d.isPunct "," t = true :=
  Bool.or_eq_true_iff

/-- It ends before a closing parenthesis or a comma. -/
theorem endsArgument_iff :
    d.endsArgument t = true ↔ d.isPunct ")" t = true ∨ d.isPunct "," t = true :=
  Bool.or_eq_true_iff

/-- What an argument begins behind is not passed over as whitespace. -/
theorem isWhitespace_of_beginsArgument (h : d.beginsArgument t = true) :
    d.isWhitespace t = false :=
  (beginsArgument_iff.mp h).elim isWhitespace_of_isPunct isWhitespace_of_isPunct

theorem isWhitespace_of_endsArgument (h : d.endsArgument t = true) : d.isWhitespace t = false :=
  (endsArgument_iff.mp h).elim isWhitespace_of_isPunct isWhitespace_of_isPunct

theorem isPunct_of_not_isClosing (h : d.isClosing t = false) : d.isPunct ")" t = false := by
  rw [isClosing, Bool.or_eq_false_iff, Bool.or_eq_false_iff] at h
  exact h.1.1

/-- Both walks look at some marks at depth 0 only. -/
theorem outer_eq_false {depth : Nat} {mark : String} (h : depth = 0 → d.isPunct mark t = false) :
    (decide (depth = 0) && d.isPunct mark t) = false := by
  by_cases hdepth : depth = 0
  · rw [h hdepth, Bool.and_false]
  · rw [decide_eq_false hdepth, Bool.false_and]

/-! ## Runs of tokens -/

/-- The depth after some tokens, from the depth before them; `none` if they close more than is
open. -/
def depthAfter (d : Document) : Nat → List NodeId → Option Nat
  | depth, [] => some depth
  | depth, t :: rest =>
    if d.isOpening t then d.depthAfter (depth + 1) rest
    else if d.isClosing t then
      match depth with
      | 0 => none
      | depth + 1 => d.depthAfter depth rest
    else d.depthAfter depth rest

/-- The tokens lead from one depth to another, with a number of commas at depth 0 among them. -/
inductive Run (d : Document) : Nat → List NodeId → Nat → Nat → Prop
  | nil {m : Nat} : Run d m [] 0 m
  | opening {m k n : Nat} {t : NodeId} {w : List NodeId} (h : d.isOpening t = true)
    (rest : Run d (m + 1) w k n) : Run d m (t :: w) k n
  | closing {m k n : Nat} {t : NodeId} {w : List NodeId} (h : d.isClosing t = true)
    (rest : Run d m w k n) : Run d (m + 1) (t :: w) k n
  | comma {k n : Nat} {t : NodeId} {w : List NodeId} (h : d.isPunct "," t = true)
    (rest : Run d 0 w k n) : Run d 0 (t :: w) (k + 1) n
  | token {m k n : Nat} {t : NodeId} {w : List NodeId} (hopen : d.isOpening t = false)
    (hclose : d.isClosing t = false) (hcomma : m = 0 → d.isPunct "," t = false)
    (rest : Run d m w k n) : Run d m (t :: w) k n

/-- Brackets that do not close more than is open make a run, with some number of commas. -/
theorem exists_run_of_depthAfter {m n : Nat} {w : List NodeId} (h : d.depthAfter m w = some n) :
    ∃ k, d.Run m w k n := by
  fun_induction depthAfter d m w with
  | case1 m =>
    cases h
    exact ⟨0, .nil⟩
  | case2 m t w hopen ih =>
    obtain ⟨k, hrun⟩ := ih h
    exact ⟨k, .opening hopen hrun⟩
  | case3 t w hopen hclose => cases h
  | case4 t w hopen hclose m ih =>
    obtain ⟨k, hrun⟩ := ih h
    exact ⟨k, .closing hclose hrun⟩
  | case5 m t w hopen hclose ih =>
    obtain ⟨k, hrun⟩ := ih h
    have hopen := Bool.eq_false_of_not_eq_true hopen
    have hclose := Bool.eq_false_of_not_eq_true hclose
    -- the depth does not tell commas from other tokens; the run counts those at depth 0
    by_cases hcomma : m = 0 ∧ d.isPunct "," t = true
    · obtain ⟨rfl, hcomma⟩ := hcomma
      exact ⟨k + 1, .comma hcomma hrun⟩
    · refine ⟨k, .token hopen hclose (fun hm => ?_) hrun⟩
      exact Bool.eq_false_of_not_eq_true fun ht => hcomma ⟨hm, ht⟩

namespace Run

variable {m n k : Nat} {w : List NodeId}

/-- Runs follow each other, and their commas add up. -/
theorem append {j : Nat} {l : Nat} {v : List NodeId} (hw : d.Run m w k n) (hv : d.Run n v j l) :
    d.Run m (w ++ v) (k + j) l := by
  induction hw with
  | nil => rwa [Nat.zero_add]
  | opening h _ ih => exact .opening h (ih hv)
  | closing h _ ih => exact .closing h (ih hv)
  | comma h _ ih =>
    rw [Nat.add_right_comm]
    exact .comma h (ih hv)
  | token hopen hclose hcomma _ ih => exact .token hopen hclose hcomma (ih hv)

/-- A run can be cut anywhere. -/
theorem split {u v : List NodeId} (h : d.Run m (u ++ v) k n) :
    ∃ i l j, d.Run m u i l ∧ d.Run l v j n ∧ k = i + j := by
  induction u generalizing m k with
  | nil => exact ⟨0, m, k, .nil, h, (Nat.zero_add k).symm⟩
  | cons t u ih =>
    cases h with
    | opening hopen rest =>
      obtain ⟨i, l, j, hu, hv, hk⟩ := ih rest
      exact ⟨i, l, j, .opening hopen hu, hv, hk⟩
    | closing hclose rest =>
      obtain ⟨i, l, j, hu, hv, hk⟩ := ih rest
      exact ⟨i, l, j, .closing hclose hu, hv, hk⟩
    | comma hcomma rest =>
      obtain ⟨i, l, j, hu, hv, hk⟩ := ih rest
      exact ⟨i + 1, l, j, .comma hcomma hu, hv, by omega⟩
    | token hopen hclose hcomma rest =>
      obtain ⟨i, l, j, hu, hv, hk⟩ := ih rest
      exact ⟨i, l, j, .token hopen hclose hcomma hu, hv, hk⟩

/-- A token that is no mark at all can be added anywhere. -/
theorem cons_of_isKind (hkind : d.isKind .punct t = false) (h : d.Run m w k n) :
    d.Run m (t :: w) k n := by
  have hmark := isPunct_eq_false_of_isKind hkind
  refine .token ?_ ?_ (fun _ => hmark _) h
  · simp only [isOpening, hmark, Bool.or_self]
  · simp only [isClosing, hmark, Bool.or_self]

/-- Whitespace neither opens nor separates anything. -/
theorem of_blank {blank : List NodeId} (hblank : ∀ b ∈ blank, d.isWhitespace b = true) (m : Nat) :
    d.Run m blank 0 m := by
  induction blank with
  | nil => exact .nil
  | cons b blank ih =>
    have hkind := isKind_punct_of_isWhitespace (hblank b List.mem_cons_self)
    exact cons_of_isKind hkind (ih fun b hb => hblank b (List.mem_cons_of_mem _ hb))

/-- Tokens lead to one depth only. -/
theorem depthAfter_eq (h : d.Run m w k n) : d.depthAfter m w = some n := by
  induction h with
  | nil => rfl
  | opening h _ ih => simp only [depthAfter, h, if_true, ih]
  | closing h _ ih =>
    simp only [depthAfter, isClosing_only h, h, Bool.false_eq_true, if_false, if_true, ih]
  | comma h _ ih =>
    have hopen : d.isOpening _ = false := isOpening_eq_of_isPunct h
    have hclose : d.isClosing _ = false := isClosing_eq_of_isPunct h
    simp only [depthAfter, hopen, hclose, Bool.false_eq_true, if_false, ih]
  | token hopen hclose _ _ ih =>
    simp only [depthAfter, hopen, hclose, Bool.false_eq_true, if_false, ih]

/-! ## Going back -/

/-- **Going back over a run** undoes its depth and counts its commas. -/
theorem openingBefore?_eq (h : d.Run m w k n) (j : Nat) (rest : List NodeId) :
    d.openingBefore? n j (w.reverse ++ rest) = d.openingBefore? m (j + k) rest := by
  -- a run grows at its front and the walk comes to its front last, so `rest` takes the token up
  induction h generalizing rest with
  | nil => rfl
  | @opening m k n t w h _ ih =>
    rw [List.reverse_cons, List.append_assoc, List.singleton_append, ih]
    simp only [openingBefore?, isOpening_only h, h, Bool.false_eq_true, if_false, if_true]
  | @closing m k n t w h _ ih =>
    rw [List.reverse_cons, List.append_assoc, List.singleton_append, ih]
    simp only [openingBefore?, h, if_true]
  | @comma k n t w h _ ih =>
    have hopen : d.isOpening t = false := isOpening_eq_of_isPunct h
    have hclose : d.isClosing t = false := isClosing_eq_of_isPunct h
    rw [List.reverse_cons, List.append_assoc, List.singleton_append, ih]
    simp only [openingBefore?, hopen, hclose, h, decide_true, Bool.and_self, Bool.false_eq_true,
      if_false, if_true, Nat.add_assoc]
  | @token m k n t w hopen hclose hcomma _ ih =>
    rw [List.reverse_cons, List.append_assoc, List.singleton_append, ih]
    simp only [openingBefore?, hopen, hclose, outer_eq_false hcomma, Bool.false_eq_true, if_false]

end Run

/-- The tokens, nearest first, lead back over a run to the parenthesis that opened it. -/
def LeadsBack (d : Document) (tokens : List NodeId) (depth : Nat) (o : NodeId) (commas : Nat) :
    Prop :=
  ∃ w rest, tokens = w.reverse ++ o :: rest ∧ d.isPunct "(" o = true ∧ d.Run 0 w commas depth

/-- Going back over one more token adds the comma that it may be. -/
theorem LeadsBack.cons {m n i k : Nat} {o : NodeId} {rest : List NodeId} (hlast : d.Run m [t] i n)
    (h : d.LeadsBack rest m o k) : d.LeadsBack (t :: rest) n o (k + i) := by
  obtain ⟨w, rest, rfl, ho, hrun⟩ := h
  exact ⟨w ++ [t], rest, by simp, ho, hrun.append hlast⟩

/-- **The walk back, characterised**: it finds a parenthesis just when a run leads from there. -/
theorem openingBefore?_eq_some_iff {n j c : Nat} {l : List NodeId} {o : NodeId} :
    d.openingBefore? n j l = some (o, c) ↔ ∃ k, c = j + k ∧ d.LeadsBack l n o k := by
  constructor
  · intro h
    -- each token passed is the last one of the run so far
    fun_induction openingBefore? d n j l with
    | case1 => cases h
    | case2 n j t rest hclose ih =>
      obtain ⟨k, hc, hback⟩ := ih h
      exact ⟨k, hc, hback.cons (.closing hclose .nil)⟩
    | case3 j t rest hclose hopen hparen =>
      cases h
      exact ⟨0, rfl, [], rest, rfl, hparen, .nil⟩
    | case4 j t rest hclose hopen hparen => cases h
    | case5 j t rest hclose hopen n ih =>
      obtain ⟨k, hc, hback⟩ := ih h
      exact ⟨k, hc, hback.cons (.opening hopen .nil)⟩
    | case6 n j t rest hclose hopen hcomma ih =>
      rw [Bool.and_eq_true, decide_eq_true_eq] at hcomma
      obtain ⟨rfl, hcomma⟩ := hcomma
      obtain ⟨k, hc, hback⟩ := ih h
      exact ⟨k + 1, by omega, hback.cons (.comma hcomma .nil)⟩
    | case7 n j t rest hclose hopen hcomma ih =>
      obtain ⟨k, hc, hback⟩ := ih h
      refine ⟨k, hc, hback.cons (.token ?_ ?_ (fun hn => ?_) .nil)⟩
      · exact Bool.eq_false_of_not_eq_true hopen
      · exact Bool.eq_false_of_not_eq_true hclose
      · rw [decide_eq_true hn, Bool.true_and] at hcomma
        exact Bool.eq_false_of_not_eq_true hcomma
  · -- after the run the walk is at depth 0 and stops
    rintro ⟨k, rfl, w, rest, rfl, ho, hrun⟩
    have hclose : d.isClosing o = false := isClosing_eq_of_isPunct ho
    have hopen : d.isOpening o = true := isOpening_eq_of_isPunct ho
    rw [hrun.openingBefore?_eq]
    simp only [openingBefore?, hclose, hopen, ho, Bool.false_eq_true, if_false, if_true]

/-! ## Going on -/

/-- The tokens that are not whitespace. -/
def significant (d : Document) (w : List NodeId) : List NodeId := w.filter (!d.isWhitespace ·)

/-- At depth 0 a closing parenthesis ends the call with the argument that was being read. -/
theorem gatherArguments_end (h : d.isPunct ")" t = true) (done : List (List NodeId))
    (current rest : List NodeId) :
    d.gatherArguments 0 done current (t :: rest) = gatherArguments.finishArguments done current := by
  rw [gatherArguments, h]
  rfl

/-- At depth 0 a comma puts the argument aside and starts the next. -/
theorem gatherArguments_comma (h : d.isPunct "," t = true) (done : List (List NodeId))
    (current rest : List NodeId) :
    d.gatherArguments 0 done current (t :: rest)
      = d.gatherArguments 0 (current.reverse :: done) [] rest := by
  have hend : d.isPunct ")" t = false := isPunct_eq_of_isPunct h _
  have hopen : d.isOpening t = false := isOpening_eq_of_isPunct h
  have hclose : d.isClosing t = false := isClosing_eq_of_isPunct h
  rw [gatherArguments]
  simp only [hend, hopen, hclose, h, decide_true, Bool.and_false, Bool.and_self, Bool.false_eq_true,
    if_false, if_true]

/-- A token that neither ends nor separates arguments belongs to the one at hand. -/
theorem gatherArguments_keep {m n : Nat} (hend : m = 0 → d.isPunct ")" t = false)
    (hdepth : (if d.isOpening t then m + 1 else if d.isClosing t then m - 1 else m) = n)
    (hcomma : n = 0 → d.isPunct "," t = false) (done : List (List NodeId))
    (current rest : List NodeId) :
    d.gatherArguments m done current (t :: rest)
      = d.gatherArguments n done (d.significant [t] ++ current) rest := by
  rw [gatherArguments, outer_eq_false hend, hdepth]
  simp only [outer_eq_false hcomma, Bool.false_eq_true, if_false]
  cases hblank : d.isWhitespace t <;> simp [significant, hblank]

/-- Arguments that are finished stay as they are. -/
theorem getElem?_gatherArguments {m i : Nat} {done : List (List NodeId)}
    {current l : List NodeId} (hi : i < done.length) :
    (d.gatherArguments m done current l)[i]? = done.reverse[i]? := by
  have hfinish : ∀ {done : List (List NodeId)} {current : List NodeId}, i < done.length →
      (gatherArguments.finishArguments done current)[i]? = done.reverse[i]? := by
    intro done current hi
    have hsome : (current.isEmpty && done.isEmpty) = false := by
      cases done with
      | nil => exact absurd hi (Nat.not_lt_zero i)
      | cons => exact Bool.and_false _
    rw [gatherArguments.finishArguments, hsome, if_neg Bool.false_ne_true, List.reverse_cons,
      List.getElem?_append_left (by rwa [List.length_reverse])]
  fun_induction gatherArguments d m done current l with
  | case1 => exact hfinish hi
  | case2 => exact hfinish hi
  | case3 m done current t rest _ n _ ih =>
    rw [ih (Nat.lt_succ_of_lt hi), List.reverse_cons,
      List.getElem?_append_left (by rwa [List.length_reverse])]
  | case4 m done current t rest _ n _ _ ih => exact ih hi
  | case5 m done current t rest _ n _ _ ih => exact ih hi

/-- What is read so far is kept turned round, so one token more goes to the front. -/
theorem reverse_significant_cons (t : NodeId) (w current : List NodeId) :
    (d.significant (t :: w)).reverse ++ current
      = (d.significant w).reverse ++ (d.significant [t] ++ current) := by
  cases hblank : d.isWhitespace t <;> simp [significant, hblank]

/-- **Going on over a run** without outer commas adds its tokens to the argument at hand. -/
theorem Run.gatherArguments_eq {m n : Nat} {w : List NodeId} (h : d.Run m w 0 n)
    (done : List (List NodeId)) (current rest : List NodeId) :
    d.gatherArguments m done current (w ++ rest)
      = d.gatherArguments n done ((d.significant w).reverse ++ current) rest := by
  -- depth is cut off at 0 in this walk, but a run never closes more than is open
  generalize hk : (0 : Nat) = k at h
  induction h generalizing current with
  | nil => rfl
  | @opening m k n t w h _ ih =>
    have hend : d.isPunct ")" t = false := isPunct_of_not_isClosing (isOpening_only h).1
    have hdepth : (if d.isOpening t then m + 1 else if d.isClosing t then m - 1 else m) = m + 1 :=
      if_pos h
    rw [List.cons_append, gatherArguments_keep (fun _ => hend) hdepth
      (fun _ => (isOpening_only h).2.1), ih _ hk, reverse_significant_cons]
  | @closing m k n t w h _ ih =>
    have hdepth : (if d.isOpening t then m + 1 + 1 else if d.isClosing t then m + 1 - 1 else m + 1)
        = m := by
      simp only [isClosing_only h, h, Bool.false_eq_true, if_false, if_true, Nat.add_sub_cancel]
    rw [List.cons_append, gatherArguments_keep (fun hm => absurd hm (Nat.succ_ne_zero m)) hdepth
      (fun _ => (isClosing_only h).2.1), ih _ hk, reverse_significant_cons]
  | comma => cases hk
  | @token m k n t w hopen hclose hcomma _ ih =>
    have hend : d.isPunct ")" t = false := isPunct_of_not_isClosing hclose
    have hdepth : (if d.isOpening t then m + 1 else if d.isClosing t then m - 1 else m) = m := by
      simp only [hopen, hclose, Bool.false_eq_true, if_false]
    rw [List.cons_append, gatherArguments_keep (fun _ => hend) hdepth hcomma, ih _ hk,
      reverse_significant_cons]

/-! ## Arguments as pieces of a run -/

/-- The tokens of some pieces, each with the mark in front of it. -/
def laid (pieces : List (NodeId × List NodeId)) : List NodeId :=
  pieces.flatMap fun piece => piece.1 :: piece.2

@[simp] theorem laid_nil : laid [] = [] := rfl

@[simp] theorem laid_cons (piece : NodeId × List NodeId) (more : List (NodeId × List NodeId)) :
    laid (piece :: more) = piece.1 :: (piece.2 ++ laid more) := rfl

@[simp] theorem laid_append (more further : List (NodeId × List NodeId)) :
    laid (more ++ further) = laid more ++ laid further :=
  List.flatMap_append

/-- The piece is a run from depth 0 to depth 0 without outer commas, behind a comma. -/
structure Separated (d : Document) (piece : NodeId × List NodeId) : Prop where
  comma : d.isPunct "," piece.1 = true
  run : d.Run 0 piece.2 0 0

/-- A run that ends at depth 0 falls into pieces at its outer commas. -/
theorem Run.exists_pieces {m k : Nat} {w : List NodeId} (h : d.Run m w k 0) :
    ∃ first more, w = first ++ laid more ∧ more.length = k ∧ d.Run m first 0 0
      ∧ ∀ piece ∈ more, d.Separated piece := by
  generalize hn : (0 : Nat) = n at h
  induction h with
  | nil =>
    subst hn
    exact ⟨[], [], rfl, rfl, .nil, fun _ hp => absurd hp List.not_mem_nil⟩
  | opening h _ ih =>
    obtain ⟨first, more, rfl, hlen, hfirst, hmore⟩ := ih hn
    exact ⟨_ :: first, more, rfl, hlen, .opening h hfirst, hmore⟩
  | closing h _ ih =>
    obtain ⟨first, more, rfl, hlen, hfirst, hmore⟩ := ih hn
    exact ⟨_ :: first, more, rfl, hlen, .closing h hfirst, hmore⟩
  | @comma k n t w h _ ih =>
    obtain ⟨first, more, rfl, rfl, hfirst, hmore⟩ := ih hn
    refine ⟨[], (t, first) :: more, rfl, rfl, hn ▸ .nil, ?_⟩
    exact List.forall_mem_cons.mpr ⟨⟨h, hn ▸ hfirst⟩, hmore⟩
  | token hopen hclose hcomma _ ih =>
    obtain ⟨first, more, rfl, hlen, hfirst, hmore⟩ := ih hn
    exact ⟨_ :: first, more, rfl, hlen, .token hopen hclose hcomma hfirst, hmore⟩

/-- **Going on over pieces** makes each an argument; the last one is still at hand. -/
theorem exists_gathered {first : List NodeId} {more : List (NodeId × List NodeId)}
    (hfirst : d.Run 0 first 0 0) (hmore : ∀ piece ∈ more, d.Separated piece)
    (before : List (List NodeId)) :
    ∃ done current, (current.reverse :: done).reverse
        = before.reverse ++ d.significant first :: more.map (d.significant ·.2)
      ∧ ∀ rest, d.gatherArguments 0 before [] (first ++ laid more ++ rest)
        = d.gatherArguments 0 done current rest := by
  -- with each comma the next piece becomes the first
  induction more generalizing first before with
  | nil =>
    refine ⟨before, (d.significant first).reverse, by simp, fun rest => ?_⟩
    rw [laid_nil, List.append_nil, hfirst.gatherArguments_eq, List.append_nil]
  | cons piece more ih =>
    obtain ⟨hpiece, hmore⟩ := List.forall_mem_cons.mp hmore
    obtain ⟨done, current, hargs, hgo⟩ := ih hpiece.run hmore (d.significant first :: before)
    refine ⟨done, current, by rw [hargs]; simp, fun rest => ?_⟩
    have hlaid : first ++ laid (piece :: more) ++ rest
        = first ++ piece.1 :: (piece.2 ++ laid more ++ rest) := by simp
    rw [hlaid, hfirst.gatherArguments_eq, gatherArguments_comma hpiece.comma, ← hgo,
      List.append_nil, List.reverse_reverse]

/-- Behind the last outer comma of a run, one argument has been finished for each comma. -/
theorem Run.exists_last {k : Nat} {w : List NodeId} (h : d.Run 0 w k 0) :
    ∃ lead last done, w = lead ++ last ∧ d.Run 0 last 0 0 ∧ done.length = k
      ∧ ∀ rest, d.gatherArguments 0 [] [] (lead ++ rest) = d.gatherArguments 0 done [] rest := by
  obtain ⟨first, more, rfl, rfl, hfirst, hmore⟩ := h.exists_pieces
  rcases List.eq_nil_or_concat more with rfl | ⟨more, piece, rfl⟩
  · exact ⟨[], first, [], by simp, hfirst, rfl, fun rest => rfl⟩
  · rw [List.concat_eq_append, List.forall_mem_append] at hmore
    have hpiece : d.Separated piece := hmore.2 piece (List.mem_singleton_self piece)
    obtain ⟨done, current, hargs, hgo⟩ := exists_gathered hfirst hmore.1 []
    refine ⟨first ++ laid more ++ [piece.1], piece.2, current.reverse :: done, ?_, hpiece.run, ?_,
      fun rest => ?_⟩
    · simp
    · -- the first piece and one for each comma but the last
      have hlength := congrArg List.length hargs
      simpa using hlength
    · rw [List.append_assoc, List.singleton_append, hgo, gatherArguments_comma hpiece.comma]

/-! ## Arguments that are one token -/

/-- Between the tokens before and after it, a token stands alone as an argument: apart from
whitespace, a parenthesis or comma is next to it on both sides. -/
structure StandsAlone (d : Document) (left right : List NodeId) : Prop where
  before : ∃ lead mark blank, left = lead ++ mark :: blank ∧ d.beginsArgument mark = true
    ∧ ∀ b ∈ blank, d.isWhitespace b = true
  after : ∃ blank mark rest, right = blank ++ mark :: rest ∧ d.endsArgument mark = true
    ∧ ∀ b ∈ blank, d.isWhitespace b = true

/-- What comes further to the left makes no difference. -/
theorem StandsAlone.append {left right : List NodeId} (h : d.StandsAlone left right)
    (further : List NodeId) : d.StandsAlone (further ++ left) right where
  before := by
    obtain ⟨lead, mark, blank, rfl, hmark, hblank⟩ := h.before
    exact ⟨further ++ lead, mark, blank, (List.append_assoc ..).symm, hmark, hblank⟩
  after := h.after

/-- Standing alone is what the nearest tokens on both sides say. -/
theorem Orderly.standsAlone_iff (h : d.Orderly) {left right : List NodeId}
    (hrow : d.Row t left right) :
    d.StandsAlone left right ↔
      (∃ mark, d.prevSignificant? t = some mark ∧ d.beginsArgument mark = true)
        ∧ ∃ mark, d.nextSignificant? t = some mark ∧ d.endsArgument mark = true := by
  simp only [h.prevSignificant?_eq_some_iff hrow, h.nextSignificant?_eq_some_iff hrow]
  constructor
  · rintro ⟨⟨lead, mark, blank, hleft, hmark, hblank⟩,
      ⟨blank', mark', rest, hright, hmark', hblank'⟩⟩
    have hsolid := isWhitespace_of_beginsArgument hmark
    have hsolid' := isWhitespace_of_endsArgument hmark'
    exact ⟨⟨mark, ⟨hsolid, lead, blank, hleft, hblank⟩, hmark⟩,
      ⟨mark', ⟨hsolid', blank', rest, hright, hblank'⟩, hmark'⟩⟩
  · rintro ⟨⟨mark, ⟨-, lead, blank, hleft, hblank⟩, hmark⟩,
      ⟨mark', ⟨-, blank', rest, hright, hblank'⟩, hmark'⟩⟩
    exact ⟨⟨lead, mark, blank, hleft, hmark, hblank⟩,
      ⟨blank', mark', rest, hright, hmark', hblank'⟩⟩

/-- **The call around a token, characterised** by the row in which the token stands. -/
theorem Orderly.enclosingCall?_eq_some_iff (h : d.Orderly) {left right : List NodeId}
    (hrow : d.Row t left right) {c : Call} :
    d.enclosingCall? t = some c ↔ d.StandsAlone left right
      ∧ ∃ k, d.LeadsBack left.reverse 0 c.opening k ∧ d.prevSignificant? c.opening = some c.callee
        ∧ d.isKind .identifier c.callee = true
        ∧ c.filter = (d.prevSignificant? c.callee).any (d.isPunct "|")
        ∧ c.position = k + if c.filter then 1 else 0 := by
  rw [h.standsAlone_iff hrow, enclosingCall?, h.preceding_eq hrow]
  simp only [Option.bind_eq_bind, Option.bind_eq_some_iff, Option.ite_none_left_eq_some,
    Option.filter_eq_some_iff, Bool.not_eq_eq_eq_not, Bool.not_true, Bool.not_eq_false,
    beginsArgument, endsArgument]
  constructor
  · rintro ⟨before, hbefore, after, hafter, hleft, hright, ⟨opening, commas⟩, hopening, callee,
      ⟨hcallee, hname⟩, hcall⟩
    obtain ⟨k, hcommas, hback⟩ := openingBefore?_eq_some_iff.mp hopening
    cases hcall
    rw [Nat.zero_add] at hcommas
    exact ⟨⟨⟨before, hbefore, hleft⟩, after, hafter, hright⟩, k, hback, hcallee, hname, rfl,
      hcommas ▸ rfl⟩
  · rintro ⟨⟨⟨before, hbefore, hleft⟩, after, hafter, hright⟩, k, hback, hcallee, hname, hfilter,
      hposition⟩
    have hopening : d.openingBefore? 0 0 left.reverse = some (c.opening, k) :=
      openingBefore?_eq_some_iff.mpr ⟨k, (Nat.zero_add k).symm, hback⟩
    refine ⟨before, hbefore, after, hafter, hleft, hright, (c.opening, k), hopening, c.callee,
      ⟨hcallee, hname⟩, ?_⟩
    rw [← hfilter, ← hposition]
    rfl

/-! ## The two walks agree -/

/-- No piece ends, apart from whitespace, with a mark behind which an argument begins. -/
theorem Run.not_mark_of_blank {s blank : List NodeId} {mark : NodeId}
    (h : d.Run 0 (s ++ mark :: blank) 0 0) (hblank : ∀ b ∈ blank, d.isWhitespace b = true) :
    ¬ d.beginsArgument mark = true := by
  obtain ⟨i, depth, j, -, hend, hcommas⟩ := h.split
  -- whitespace leaves the depth as it is
  have hzero : ∀ {m k : Nat}, d.Run m blank k 0 → m = 0 := by
    intro m k hrun
    have hsame := (of_blank hblank m).depthAfter_eq
    rw [hrun.depthAfter_eq] at hsame
    exact (Option.some.inj hsame).symm
  have hj : j = 0 := by omega
  subst hj
  rw [beginsArgument_iff]
  rintro (hmark | hmark)
  · have hopen : d.isOpening mark = true := isOpening_eq_of_isPunct hmark
    cases hend with
    | opening _ rest => exact absurd (hzero rest) (Nat.succ_ne_zero _)
    | closing hclose _ =>
      rw [(isClosing_only hclose).1] at hopen
      cases hopen
    | token hnot _ _ _ =>
      rw [hnot] at hopen
      cases hopen
  · cases hend with
    | opening hopen _ =>
      rw [(isOpening_only hopen).2.1] at hmark
      cases hmark
    | closing hclose _ =>
      rw [(isClosing_only hclose).2.1] at hmark
      cases hmark
    | token _ _ hcomma rest =>
      rw [hcomma (hzero rest)] at hmark
      cases hmark

/-- Nothing significant is left of whitespace alone. -/
theorem significant_eq_nil_iff {w : List NodeId} :
    d.significant w = [] ↔ ∀ b ∈ w, d.isWhitespace b = true := by
  simp [significant]

/-- The piece right before a token that stands alone is blank. -/
theorem StandsAlone.significant_eq_nil {lead s right : List NodeId}
    (h : d.StandsAlone (lead ++ s) right) (hs : d.Run 0 s 0 0) : d.significant s = [] := by
  obtain ⟨lead', mark, blank, hleft, hmark, hblank⟩ := h.before
  -- the mark is in the piece, at its front or before it
  rcases List.append_eq_append_iff.mp hleft with ⟨s', -, rfl⟩ | ⟨gap, -, hgap⟩
  · exact absurd hmark (hs.not_mark_of_blank hblank)
  · cases gap with
    | nil =>
      rw [List.nil_append] at hgap
      rw [← hgap] at hs
      exact absurd hmark (hs.not_mark_of_blank (s := []) hblank)
    | cons first gap =>
      rw [List.cons_append, List.cons.injEq] at hgap
      rw [significant_eq_nil_iff]
      exact fun b hb => hblank b (hgap.2 ▸ List.mem_append_right gap hb)

/-- A token that stands alone becomes the next argument. -/
theorem StandsAlone.getElem?_gatherArguments {left right : List NodeId}
    (h : d.StandsAlone left right) (hkind : d.isKind .punct t = false)
    (hsolid : d.isWhitespace t = false) (done : List (List NodeId)) :
    (d.gatherArguments 0 done [] (t :: right))[done.length]? = some [t] := by
  obtain ⟨blank, mark, rest, rfl, hmark, hblank⟩ := h.after
  have hrun : d.Run 0 (t :: blank) 0 0 := .cons_of_isKind hkind (.of_blank hblank 0)
  have hsignificant : d.significant (t :: blank) = [t] := by
    have hnone := significant_eq_nil_iff.mpr hblank
    rw [significant] at hnone ⊢
    rw [List.filter_cons_of_pos (by rw [hsolid]; rfl), hnone]
  rw [← List.cons_append, hrun.gatherArguments_eq, hsignificant, List.append_nil,
    List.reverse_singleton]
  rcases endsArgument_iff.mp hmark with hmark | hmark
  · rw [gatherArguments_end hmark, gatherArguments.finishArguments]
    simp
  · rw [gatherArguments_comma hmark, Document.getElem?_gatherArguments (Nat.lt_succ_self _)]
    simp

/-- The token is found among the arguments of the call that is found around it. -/
theorem Orderly.exists_argument (h : d.Orderly) (hkind : d.isKind .punct t = false)
    (hsolid : d.isWhitespace t = false) {c : Call} (hcall : d.enclosingCall? t = some c) :
    ∃ i, c.position = i + (if c.filter then 1 else 0)
      ∧ (d.callArguments c.opening)[i]? = some [t] := by
  have hsome : ∃ prev, d.prevSignificant? t = some prev := by
    rw [enclosingCall?, Option.bind_eq_bind, Option.bind_eq_some_iff] at hcall
    obtain ⟨prev, hprev, -⟩ := hcall
    exact ⟨prev, hprev⟩
  obtain ⟨prev, hprev⟩ := hsome
  obtain ⟨left, right, hrow⟩ := exists_row_of_prevSignificant? hprev
  obtain ⟨halone, k, ⟨w, rest, hback, -, hrun⟩, -, -, -, hposition⟩ :=
    (h.enclosingCall?_eq_some_iff hrow).mp hcall
  refine ⟨k, hposition, ?_⟩
  -- the walk on passes `lead`, which ends with a comma or is empty, and then only whitespace
  obtain ⟨lead, last, done, rfl, hlast, rfl, hgo⟩ := hrun.exists_last
  have hleft : left = rest.reverse ++ c.opening :: (lead ++ last) := by
    rw [← List.reverse_reverse left, hback]
    simp
  have hopening : d.Row c.opening rest.reverse (lead ++ (last ++ t :: right)) :=
    h.row_of_mem hrow (by simp [hleft])
  have hblank : d.significant last = [] := by
    have hsplit : left = (rest.reverse ++ c.opening :: lead) ++ last := by simp [hleft]
    exact (hsplit ▸ halone).significant_eq_nil hlast
  rw [callArguments, h.following_eq hopening, hgo, hlast.gatherArguments_eq, hblank]
  exact halone.getElem?_gatherArguments hkind hsolid done

/-- The parenthesis opens a call of an identifier and is closed again: a `)` follows at depth 0, and
nothing before it closes what is not open. -/
structure ClosedCall (d : Document) (opening callee : NodeId) : Prop where
  mark : d.isPunct "(" opening = true
  before : d.prevSignificant? opening = some callee
  identifier : d.isKind .identifier callee = true
  closed : ∃ inside close rest, d.following opening = inside ++ close :: rest
    ∧ d.isPunct ")" close = true ∧ d.depthAfter 0 inside = some 0

/-- A token that is all there is of an argument has only whitespace around it. -/
theorem eq_blank_of_significant {s : List NodeId} (h : d.significant s = [t]) :
    ∃ blank blank', s = blank ++ t :: blank' ∧ (∀ b ∈ blank, d.isWhitespace b = true)
      ∧ ∀ b ∈ blank', d.isWhitespace b = true := by
  obtain ⟨blank, blank', hs, hblank, -, hrest⟩ := List.filter_eq_cons_iff.mp h
  refine ⟨blank, blank', hs, fun b hb => ?_, significant_eq_nil_iff.mp hrest⟩
  simpa using hblank b hb

/-- Going back from an argument that is one token passes over the pieces before it. -/
theorem exists_standsAlone {first : List NodeId} {more : List (NodeId × List NodeId)}
    (hfirst : d.Run 0 first 0 0) (hmore : ∀ piece ∈ more, d.Separated piece) {o close : NodeId}
    (ho : d.beginsArgument o = true) (hclose : d.endsArgument close = true)
    {i : Nat} (hi : (d.significant first :: more.map (d.significant ·.2))[i]? = some [t])
    (rest : List NodeId) :
    ∃ left right, first ++ laid more ++ close :: rest = left ++ t :: right ∧ d.Run 0 left i 0
      ∧ d.StandsAlone (o :: left) right := by
  -- with each step to the next argument, the comma before it takes the part of the parenthesis
  induction i generalizing first more o with
  | zero =>
    obtain ⟨blank, blank', rfl, hblank, hblank'⟩ := eq_blank_of_significant (Option.some.inj hi)
    refine ⟨blank, blank' ++ laid more ++ close :: rest, by simp, .of_blank hblank 0,
      ⟨[], o, blank, rfl, ho, hblank⟩, ?_⟩
    cases more with
    | nil => exact ⟨blank', close, rest, by simp, hclose, hblank'⟩
    | cons piece more =>
      have hpiece := hmore piece List.mem_cons_self
      exact ⟨blank', piece.1, piece.2 ++ laid more ++ close :: rest, by simp,
        endsArgument_iff.mpr (Or.inr hpiece.comma), hblank'⟩
  | succ i ih =>
    cases more with
    | nil => cases hi
    | cons piece more =>
      obtain ⟨hpiece, hmore⟩ := List.forall_mem_cons.mp hmore
      have hbegins : d.beginsArgument piece.1 = true :=
        beginsArgument_iff.mpr (Or.inr hpiece.comma)
      obtain ⟨left, right, hsplit, hrun, halone⟩ := ih hpiece.run hmore hbegins hi
      refine ⟨first ++ piece.1 :: left, right, ?_, ?_, halone.append (o :: first)⟩
      · calc first ++ laid (piece :: more) ++ close :: rest
            = first ++ piece.1 :: (piece.2 ++ laid more ++ close :: rest) := by simp
          _ = first ++ piece.1 :: left ++ t :: right := by rw [hsplit]; simp
      · rw [← Nat.zero_add (i + 1)]
        exact hfirst.append (.comma hpiece.comma hrun)

/-- The call is found around a token that is one of its arguments. -/
theorem Orderly.enclosingCall?_of_argument (h : d.Orderly) {opening callee : NodeId}
    (hclosed : d.ClosedCall opening callee) {i : Nat}
    (hi : (d.callArguments opening)[i]? = some [t]) {filter : Bool}
    (hfilter : filter = (d.prevSignificant? callee).any (d.isPunct "|")) :
    d.enclosingCall? t = some ⟨callee, opening, i + (if filter then 1 else 0), filter⟩ := by
  obtain ⟨pre, post, hrow⟩ := exists_row_of_prevSignificant? hclosed.before
  obtain ⟨inside, close, rest, hfollowing, hclose, hdepth⟩ := hclosed.closed
  have hpost : post = inside ++ close :: rest := (h.following_eq hrow).symm.trans hfollowing
  obtain ⟨k, hrun⟩ := exists_run_of_depthAfter hdepth
  obtain ⟨first, more, rfl, -, hfirst, hmore⟩ := hrun.exists_pieces
  -- up to the closing parenthesis the walk on reads the pieces, and there it stops
  have hargument : (d.significant first :: more.map (d.significant ·.2))[i]? = some [t] := by
    obtain ⟨done, current, hargs, hgo⟩ := exists_gathered hfirst hmore []
    rw [callArguments, hfollowing, hgo, gatherArguments_end hclose,
      gatherArguments.finishArguments] at hi
    split at hi
    · cases hi
    · rwa [hargs] at hi
  obtain ⟨left, right, hsplit, hback, halone⟩ :=
    exists_standsAlone hfirst hmore (beginsArgument_iff.mpr (Or.inl hclosed.mark))
      (endsArgument_iff.mpr (Or.inl hclose)) hargument rest
  have ht : d.Row t (pre ++ opening :: left) right :=
    h.row_of_mem hrow (by simp [hpost, hsplit])
  rw [h.enclosingCall?_eq_some_iff ht]
  refine ⟨halone.append pre, i, ⟨left, pre.reverse, by simp, hclosed.mark, hback⟩, hclosed.before,
    hclosed.identifier, hfilter, rfl⟩

/-- **Calls are read alike from both ends.** In an orderly document, take a token that is neither a
mark nor whitespace. The call found around it has the token as one whole argument, at the position
that was counted, the filtered value not being among the arguments. And where a closed call has it as
one whole argument, that call is found around it, at that position. -/
theorem calls_agree_from_both_ends (h : d.Orderly) (hkind : d.isKind .punct t = false)
    (hsolid : d.isWhitespace t = false) :
    (∀ c, d.enclosingCall? t = some c →
      ∃ i, c.position = i + (if c.filter then 1 else 0)
        ∧ (d.callArguments c.opening)[i]? = some [t])
    ∧ ∀ opening callee i, d.ClosedCall opening callee →
      (d.callArguments opening)[i]? = some [t] →
      ∃ c, d.enclosingCall? t = some c ∧ c.opening = opening ∧ c.callee = callee
        ∧ c.filter = (d.prevSignificant? callee).any (d.isPunct "|")
        ∧ c.position = i + (if c.filter then 1 else 0) := by
  constructor
  · intro c hcall
    exact h.exists_argument hkind hsolid hcall
  · intro opening callee i hclosed hi
    exact ⟨_, h.enclosingCall?_of_argument hclosed hi rfl, rfl, rfl, rfl, rfl⟩

/-- In `n|plural(f[1, 2], key, x)` the key is the argument at index 1 and, the filtered value
counted, at position 2. -/
theorem calls_agree_from_both_ends_filter :
    let d := build ⟨"count.html"⟩ .template [.open .printBlock "", .ident "n", .punct "|",
      .ident "plural", .punct "(", .ident "f", .punct "[", .ident "1", .punct ",", .space,
      .ident "2", .punct "]", .punct ",", .space, .ident "key", .punct ",", .space, .ident "x",
      .punct ")", .close]
    (d.callArguments 5)[1]? = some [15]
      ∧ ∃ c, d.enclosingCall? 15 = some c ∧ c.opening = 5 ∧ c.callee = 4 ∧ c.filter = true
        ∧ c.position = 2 := by
  intro d
  have horderly : d.Orderly := orderly_build _ _ (by decide +kernel)
  have hclosed : d.ClosedCall 5 4 := by
    refine ⟨by decide +kernel, by decide +kernel, by decide +kernel, ?_⟩
    refine ⟨[6, 7, 8, 9, 10, 11, 12, 13, 14, 15, 16, 17, 18], 19, [], ?_⟩
    decide +kernel
  have hfilter : (d.prevSignificant? 4).any (d.isPunct "|") = true := by decide +kernel
  obtain ⟨hback, hon⟩ := calls_agree_from_both_ends (t := 15) horderly (by decide +kernel)
    (by decide +kernel)
  constructor
  · obtain ⟨i, hi, hargument⟩ := hback ⟨4, 5, 2, true⟩ (by decide +kernel)
    obtain rfl : i = 1 := (Nat.succ.inj hi).symm
    exact hargument
  · obtain ⟨c, hcall, hopening, hcallee, hc, hposition⟩ := hon 5 4 1 hclosed (by decide +kernel)
    rw [hfilter] at hc
    rw [hc] at hposition
    exact ⟨c, hcall, hopening, hcallee, hc, hposition⟩

-- In `f(], t)` the stray bracket is an argument to the walk on, which counts depth from 0 up only;
-- the walk back takes it for the end of a list and loses the call.
example :
    let d := build ⟨"stray.html"⟩ .template [.ident "f", .punct "(", .punct "]", .punct ",",
      .ident "t", .punct ")"]
    (d.callArguments 2)[1]? = some [5] ∧ d.enclosingCall? 5 = none := by
  decide +kernel

end Signpost.Document
