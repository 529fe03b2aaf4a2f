/-
`Proofs/Files.lean` -- files that are found where they were written.

A walk through a tree of files is told by the place that it has come to: a name leads from a
directory to the `next` place, and the walk goes on as long as a directory stands there (`Passes`).
So a path is looked up successfully under two conditions, one on its text and one on what stands
along its way, and the answer is where it leads (`locate_eq_ok_iff`). A write keeps both: a file is
put only where no directory stands, so every directory stays where it is (`get?_put_of_directory`),
the way of the path leads on as before, and the file is at the end of it (`finds_of_writeText`).

A relative path starts in the working directory. Put behind the names of that directory, it leads
from the root to the same place (`Finds.cwd_join`), but its text is longer then, and a path whose
text is too long is not looked up at all.
-/
import Signpost.Files.Tree
import Signpost.Proofs.Text

set_option autoImplicit false

namespace Signpost

/-- A chain of two steps succeeds only when both do. -/
theorem exists_of_bind_eq_ok {ε α β : Type} {x : Except ε α} {f : α → Except ε β} {b : β}
    (h : (x >>= f) = .ok b) : ∃ a, x = .ok a ∧ f a = .ok b := by
  cases x with
  | error e => cases h
  | ok a => exact ⟨a, rfl, h⟩

/-! ## What stands at a place -/

namespace FileNode

/-- What stands at a place is found by stopping anywhere on the way. -/
theorem get?_append (place below : Place) (n : FileNode) :
    n.get? (place ++ below) = (n.get? place).bind (get? below) := by
  induction place generalizing n with
  | nil => rfl
  | cons name place ih =>
    rw [List.cons_append, get?, get?, Option.bind_assoc]
    exact congrArg _ (funext ih)

/-- Putting a file where no directory stands leaves all directories where they are. -/
theorem get?_put_of_directory {text : String} {place : Place} {n : FileNode}
    (hplace : ∀ es, n.get? place ≠ some (.directory es)) {other : Place}
    {es : Table String FileNode} (hother : n.get? other = some (.directory es)) :
    ∃ es', (put (.file text) place n).get? other = some (.directory es') := by
  -- the two places are walked together until they part or one of them ends
  induction place generalizing n other with
  | nil =>
    cases n with
    | directory entries => exact absurd rfl (hplace entries)
    | file _ =>
      cases other with
      | nil => cases hother
      | cons name rest => cases hother
  | cons name place ih =>
    cases other with
    | nil => exact ⟨_, rfl⟩
    | cons first other =>
      rw [get?] at hother
      obtain ⟨below, hbelow, hbelowOther⟩ := Option.bind_eq_some_iff.mp hother
      rw [put, get?, entries, Table.find?_update]
      split
      · next hname =>
        subst hname
        rw [hbelow, Option.getD_some, Option.bind_some]
        refine ih (fun es hes => hplace es ?_) hbelowOther
        rw [get?, hbelow, Option.bind_some, hes]
      · exact ⟨es, hother⟩

end FileNode

namespace FileTree

variable {t : FileTree} {place : Place} {name : String}

/-- A directory stands at the place. -/
def DirectoryAt (t : FileTree) (place : Place) : Prop :=
  ∃ es, t.root.get? place = some (.directory es)

/-- What leads to a directory are directories. -/
theorem DirectoryAt.of_append {below : Place} (h : t.DirectoryAt (place ++ below)) :
    t.DirectoryAt place := by
  obtain ⟨es, hes⟩ := h
  rw [FileNode.get?_append] at hes
  obtain ⟨n, hn, hes⟩ := Option.bind_eq_some_iff.mp hes
  cases n with
  | directory entries => exact ⟨entries, hn⟩
  | file text => cases below <;> cases hes

/-! ## Walking -/

/-- A trail grows at its end: the name, and what stands there. -/
theorem trailTo_concat (t : FileTree) (place : Place) (name : String) :
    t.trailTo (place ++ [name])
      = (name, (t.standing (t.trailTo place)).bind (·.get? [name])) :: t.trailTo place := by
  simp [trailTo]

/-- At the end of the trail to a place stands what is at that place. -/
theorem standing_trailTo (t : FileTree) (place : Place) :
    t.standing (t.trailTo place) = t.root.get? place := by
  induction place using List.reverseRecOn with
  | nil => rfl
  | append_singleton place name ih =>
    rw [trailTo_concat, ih, FileNode.get?_append]
    rfl

/-- The trail to a place leads there. -/
theorem place_trailTo (t : FileTree) (place : Place) : (t.trailTo place).place = place := by
  induction place using List.reverseRecOn with
  | nil => rfl
  | append_singleton place name ih =>
    rw [Trail.place] at ih ⊢
    rw [trailTo_concat, List.map_cons, List.reverse_cons, ih]

/-- The place that a name leads to from another. -/
def next (place : Place) (name : String) : Place :=
  if Path.isIdle name then place else if name = ".." then place.dropLast else place ++ [name]

/-- A name that is not refused for its length. -/
def Passable (name : String) : Prop :=
  Path.isIdle name = true ∨ name = ".." ∨ name.utf8ByteSize ≤ maxName

/-- Only a directory can be entered. -/
theorem enter_trailTo (t : FileTree) (place : Place) (es : Table String FileNode) :
    t.enter (t.trailTo place) = .ok es ↔ t.root.get? place = some (.directory es) := by
  rw [enter, standing_trailTo]
  cases t.root.get? place with
  | none => simp
  | some n => cases n <;> simp

/-- Going up takes the last name off. -/
theorem tail_trailTo (t : FileTree) (place : Place) :
    (t.trailTo place).tail = t.trailTo place.dropLast := by
  induction place using List.reverseRecOn with
  | nil => rfl
  | append_singleton place name _ => rw [trailTo_concat, List.tail_cons, List.dropLast_concat]

/-- A step out of a directory. -/
theorem step_trailTo (h : t.DirectoryAt place) (hname : Passable name) :
    t.step (t.trailTo place) name = .ok (t.trailTo (next place name)) := by
  obtain ⟨es, hes⟩ := h
  have henter := (enter_trailTo t place es).mpr hes
  rw [step, henter, next]
  change (if Path.isIdle name then _ else _) = _
  split
  · rfl
  split
  · rw [← tail_trailTo]
    rfl
  · next hidle hup =>
    have hshort : ¬ maxName < name.utf8ByteSize :=
      Nat.not_lt.mpr ((hname.resolve_left hidle).resolve_left hup)
    have hfind : (some (FileNode.directory es)).bind (·.get? [name]) = es.find? name := by
      rw [Option.bind_some, FileNode.get?, FileNode.entries]
      cases es.find? name <;> rfl
    rw [if_neg hshort, trailTo_concat, standing_trailTo, hes, hfind]
    rfl

/-- **One step of a walk** goes from a directory to the next place. -/
theorem of_step_eq_ok {trail : Trail} (h : t.step (t.trailTo place) name = .ok trail) :
    t.DirectoryAt place ∧ Passable name ∧ trail = t.trailTo (next place name) := by
  obtain ⟨es, henter, hrest⟩ := exists_of_bind_eq_ok h
  have hhere : t.DirectoryAt place := ⟨es, (enter_trailTo t place es).mp henter⟩
  have hname : Passable name := by
    by_contra hlong
    obtain ⟨hidle, hup, hlength⟩ : ¬ Path.isIdle name = true ∧ ¬ name = ".."
        ∧ maxName < name.utf8ByteSize := by
      simpa [Passable] using hlong
    rw [if_neg hidle, if_neg hup, if_pos hlength] at hrest
    cases hrest
  rw [step_trailTo hhere hname] at h
  exact ⟨hhere, hname, (Except.ok.inj h).symm⟩

/-- Every name leads on from a directory. -/
def Passes (t : FileTree) : Place → List String → Prop
  | _, [] => True
  | place, name :: names => t.DirectoryAt place ∧ Passable name ∧ t.Passes (next place name) names

/-- **A whole walk.** -/
theorem foldlM_step_eq_ok_iff {names : List String} {trail : Trail} :
    names.foldlM t.step (t.trailTo place) = .ok trail
      ↔ t.Passes place names ∧ trail = t.trailTo (names.foldl next place) := by
  induction names generalizing place with
  | nil =>
    rw [List.foldlM_nil]
    constructor
    · rintro ⟨⟩
      exact ⟨trivial, rfl⟩
    · rintro ⟨-, rfl⟩
      rfl
  | cons name names ih =>
    rw [List.foldlM_cons]
    constructor
    · intro h
      obtain ⟨first, hstep, h⟩ := exists_of_bind_eq_ok h
      obtain ⟨hhere, hname, rfl⟩ := of_step_eq_ok hstep
      obtain ⟨hrest, htrail⟩ := ih.mp h
      exact ⟨⟨hhere, hname, hrest⟩, htrail⟩
    · rintro ⟨⟨hhere, hname, hrest⟩, htrail⟩
      rw [step_trailTo hhere hname]
      exact ih.mpr ⟨hrest, htrail⟩

/-- A walk may be cut anywhere. -/
theorem Passes.append {place : Place} {names more : List String} (h : t.Passes place names)
    (hmore : t.Passes (names.foldl next place) more) : t.Passes place (names ++ more) := by
  induction names generalizing place with
  | nil => exact hmore
  | cons name names ih => exact ⟨h.1, h.2.1, ih h.2.2 hmore⟩

/-! ## Looking up -/

/-- The place where a path starts. -/
def startOf (t : FileTree) (p : Path) : Place := if p.isAbsolute then [] else t.here

/-- The place where a path leads. -/
def placeOf (t : FileTree) (p : Path) : Place := p.parts.foldl next (t.startOf p)

/-- A path that is looked up at all. -/
structure Sound (p : Path) : Prop where
  noFault : p.fault? = none
  nonempty : p.text.isEmpty = false
  short : p.text.utf8ByteSize ≤ maxPath

/-- The only fault that a path has by itself is a null character. -/
theorem fault?_eq_none_iff {p : Path} : p.fault? = none ↔ '\x00' ∉ p.text.toList := by
  simp [Path.fault?]

/-- **Where a path leads.** -/
theorem locate_eq_ok_iff {p : Path} {trail : Trail} : t.locate p = .ok trail
    ↔ Sound p ∧ t.Passes (t.startOf p) p.parts ∧ trail = t.trailTo (t.placeOf p) := by
  have hstart : (if p.isAbsolute then [] else t.trailTo t.here) = t.trailTo (t.startOf p) := by
    rw [startOf]
    split <;> rfl
  have hwalk : Sound p → t.locate p = p.parts.foldlM t.step (t.trailTo (t.startOf p)) := by
    intro hp
    rw [locate, walk, hp.noFault, hp.nonempty, if_neg Bool.false_ne_true,
      if_neg (Nat.not_lt.mpr hp.short), hstart]
  constructor
  · intro h
    have hp : Sound p := by
      rw [locate, walk] at h
      cases hfault : p.fault? with
      | some e =>
        rw [hfault] at h
        cases h
      | none =>
        rw [hfault] at h
        dsimp only at h
        split at h
        · cases h
        split at h
        · cases h
        · next hempty hlong => exact ⟨hfault, Bool.eq_false_iff.mpr hempty, Nat.not_lt.mp hlong⟩
    rw [hwalk hp] at h
    exact ⟨hp, foldlM_step_eq_ok_iff.mp h⟩
  · rintro ⟨hp, hpasses, htrail⟩
    rw [hwalk hp]
    exact foldlM_step_eq_ok_iff.mpr ⟨hpasses, htrail⟩

/-! ## Writing -/

theorem here_put (t : FileTree) (trail : Trail) (n : FileNode) : (t.put trail n).here = t.here := by
  rw [FileTree.put]

/-- What is put into a tree does not change where paths lead. -/
theorem startOf_put (t : FileTree) (trail : Trail) (n : FileNode) (p : Path) :
    (t.put trail n).startOf p = t.startOf p := by
  rw [startOf, startOf, here_put]

/-- Where a path leads depends on the working directory alone. -/
theorem placeOf_put (t : FileTree) (trail : Trail) (n : FileNode) (p : Path) :
    (t.put trail n).placeOf p = t.placeOf p := by
  rw [placeOf, placeOf, startOf_put]

/-- A file that is put where no directory stands takes no directory away. -/
theorem DirectoryAt.put_file {text : String} (hplace : ¬ t.DirectoryAt place) {other : Place}
    (h : t.DirectoryAt other) : (t.put (t.trailTo place) (.file text)).DirectoryAt other := by
  obtain ⟨es, hes⟩ := h
  rw [FileTree.put, place_trailTo]
  exact FileNode.get?_put_of_directory (fun es hes => hplace ⟨es, hes⟩) hes

/-- Every walk that was possible before a file is put still is. -/
theorem Passes.put_file {text : String} (hplace : ¬ t.DirectoryAt place) {start : Place}
    {names : List String} (h : t.Passes start names) :
    (t.put (t.trailTo place) (.file text)).Passes start names := by
  induction names generalizing start with
  | nil => trivial
  | cons name names ih => exact ⟨.put_file hplace h.1, h.2.1, ih h.2.2⟩

/-- What is written is put where the path leads, unless a directory stands there. -/
theorem writeText_eq_ok_iff {p : Path} {text : String} {t' : FileTree} :
    t.writeText p text = .ok t' ↔ endsOpen p = false ∧ Sound p ∧ t.Passes (t.startOf p) p.parts
      ∧ ¬ t.DirectoryAt (t.placeOf p) ∧ t' = t.put (t.trailTo (t.placeOf p)) (.file text) := by
  constructor
  · intro h
    rw [writeText] at h
    split at h
    · -- a path that can only be that of a directory is always refused
      obtain ⟨_, -, h⟩ := exists_of_bind_eq_ok h
      obtain ⟨_, -, h⟩ := exists_of_bind_eq_ok h
      cases h
    · next hopen =>
      obtain ⟨trail, hlocate, h⟩ := exists_of_bind_eq_ok h
      obtain ⟨hp, hpasses, rfl⟩ := locate_eq_ok_iff.mp hlocate
      rw [standing_trailTo] at h
      split at h
      · cases h
      · next hnone =>
        exact ⟨Bool.eq_false_iff.mpr hopen, hp, hpasses, fun ⟨es, hes⟩ => hnone es hes,
          (Except.ok.inj h).symm⟩
  · rintro ⟨hopen, hp, hpasses, hplace, rfl⟩
    rw [writeText, hopen, if_neg Bool.false_ne_true, locate_eq_ok_iff.mpr ⟨hp, hpasses, rfl⟩]
    simp only [Bind.bind, Except.bind, standing_trailTo]
    split
    · next es hes => exact absurd ⟨es, hes⟩ hplace
    · rfl

/-- A file stands where the path leads. -/
structure Finds (t : FileTree) (p : Path) (text : String) : Prop where
  sound : Sound p
  passes : t.Passes (t.startOf p) p.parts
  file : t.root.get? (t.placeOf p) = some (.file text)

namespace Finds

variable {p : Path} {text : String}

/-- A path that finds a file can be walked to its end. -/
theorem exists_trail (h : t.Finds p text) :
    ∃ trail, t.locate p = .ok trail ∧ t.standing trail = some (.file text) := by
  refine ⟨_, locate_eq_ok_iff.mpr ⟨h.sound, h.passes, rfl⟩, ?_⟩
  rw [standing_trailTo, h.file]

/-- What is found there is a file. -/
theorem kind?_eq (h : t.Finds p text) : t.kind? p = some .file := by
  obtain ⟨trail, hlocate, hfile⟩ := h.exists_trail
  simp [kind?, hlocate, hfile, FileNode.kind]

/-- Reading gives the text of the file. -/
theorem readText_eq (h : t.Finds p text) : t.readText p = .ok text := by
  obtain ⟨trail, hlocate, hfile⟩ := h.exists_trail
  simp [readText, hlocate, hfile, Bind.bind, Except.bind]

end Finds

/-- **What was written is found.** -/
theorem finds_of_writeText {p : Path} {text : String} {t' : FileTree}
    (h : t.writeText p text = .ok t') : t'.here = t.here ∧ t'.Finds p text := by
  obtain ⟨-, hp, hpasses, hplace, rfl⟩ := writeText_eq_ok_iff.mp h
  refine ⟨here_put _ _ _, hp, ?_, ?_⟩
  · rw [startOf_put]
    exact hpasses.put_file hplace
  · rw [placeOf_put, FileTree.put, place_trailTo]
    exact FileNode.get?_put _ _ _

/-! ## Relative paths -/

/-- A proper name is not empty. -/
theorem Proper.toList_ne_nil (h : Proper name) : name.toList ≠ [] := by
  intro hnil
  obtain rfl := String.toList_eq_nil_iff.mp hnil
  exact absurd h.ne_idle (by decide)

/-- Names of directories lead down to their place. -/
theorem foldl_next_proper {names : List String} (h : ∀ name ∈ names, Proper name) (place : Place) :
    names.foldl next place = place ++ names := by
  induction names generalizing place with
  | nil => exact (List.append_nil place).symm
  | cons name names ih =>
    have hname := h name List.mem_cons_self
    rw [List.foldl_cons, next, if_neg (Bool.eq_false_iff.mp hname.ne_idle), if_neg hname.ne_up,
      ih fun n hn => h n (List.mem_cons_of_mem name hn), List.append_assoc, List.singleton_append]

/-- Names that count for nothing lead nowhere. -/
theorem foldl_next_idle {names : List String} (h : ∀ name ∈ names, Path.isIdle name = true)
    (place : Place) : names.foldl next place = place := by
  induction names with
  | nil => rfl
  | cons name names ih =>
    rw [List.foldl_cons, next, if_pos (h name List.mem_cons_self),
      ih fun n hn => h n (List.mem_cons_of_mem name hn)]

/-- Names that lead nowhere else can be passed in any directory. -/
theorem passes_idle {names : List String} (h : ∀ name ∈ names, Path.isIdle name = true)
    (hplace : t.DirectoryAt place) : t.Passes place names := by
  induction names with
  | nil => trivial
  | cons name names ih =>
    have hname := h name List.mem_cons_self
    refine ⟨hplace, .inl hname, ?_⟩
    rw [next, if_pos hname]
    exact ih fun n hn => h n (List.mem_cons_of_mem name hn)

/-- Proper names can be passed when there is a directory at the end, since there is one at every
name before. -/
theorem passes_proper {names : List String} (h : ∀ name ∈ names, Proper name)
    (hdirectory : t.DirectoryAt (place ++ names)) : t.Passes place names := by
  induction names generalizing place with
  | nil => trivial
  | cons name names ih =>
    have hname := h name List.mem_cons_self
    have hnext : next place name = place ++ [name] := by
      rw [next, if_neg (Bool.eq_false_iff.mp hname.ne_idle), if_neg hname.ne_up]
    refine ⟨hdirectory.of_append, .inr (.inr hname.short), ?_⟩
    rw [hnext]
    refine ih (fun n hn => h n (List.mem_cons_of_mem name hn)) ?_
    rwa [List.append_assoc, List.singleton_append]

section Joined

variable {p : Path}

/-- Joined names are each name with its separator, and the last one without. -/
theorem intercalate_concat (names : List (List Char)) (last : List Char) :
    ['/'].intercalate (names ++ [last]) = (names.flatMap (· ++ ['/'])) ++ last := by
  induction names with
  | nil => simp
  | cons name names ih =>
    cases names with
    | nil => simp [List.intercalate_cons_cons]
    | cons next names =>
      rw [List.cons_append, List.cons_append, List.intercalate_cons_cons, ← List.cons_append, ih]
      simp

/-- A relative path, seen from the root. -/
theorem toList_cwd_join (hp : p.isAbsolute = false) :
    (t.cwd.join p).text.toList
      = '/' :: (t.here.flatMap fun name => name.toList ++ ['/']) ++ p.text.toList := by
  rw [Path.join, hp, if_neg Bool.false_ne_true, cwd]
  rcases List.eq_nil_or_concat t.here with hnil | ⟨init, last, hconcat⟩
  · rw [hnil]
    simp
  · have hlast : Proper last := t.proper last (by rw [hconcat]; simp)
    have htext : ("/" ++ "/".intercalate t.here).toList
        = '/' :: (init.flatMap fun name => name.toList ++ ['/']) ++ last.toList := by
      have hjoined := intercalate_concat (init.map String.toList) last.toList
      rw [List.flatMap_map] at hjoined
      rw [hconcat, List.concat_eq_append, String.toList_append, String.toList_intercalate,
        List.map_append]
      exact congrArg ('/' :: ·) hjoined
    -- the last name is not empty and has no separator
    have hend : ("/" ++ "/".intercalate t.here).toList.getLast? ≠ some '/' := by
      rw [htext, List.getLast?_append_of_ne_nil _ hlast.toList_ne_nil]
      exact fun h => hlast.noSeparator (List.mem_of_getLast? h)
    have hopen : ¬ (("/" ++ "/".intercalate t.here).isEmpty
        || ("/" ++ "/".intercalate t.here).toList.getLast? == some '/') = true := by
      simpa using hend
    rw [if_neg hopen, String.toList_append, String.toList_append, htext, hconcat]
    simp

/-- A relative path behind the working directory is walked through that directory first. -/
theorem parts_cwd_join (hp : p.isAbsolute = false) :
    (t.cwd.join p).parts = "" :: (t.here ++ p.parts) := by
  have hnames : ∀ names : List String, (∀ name ∈ names, Proper name) →
      ((names.flatMap fun name => name.toList ++ ['/']) ++ p.text.toList).splitOn '/'
        = names.map String.toList ++ p.text.toList.splitOn '/' := by
    intro names hnames
    induction names with
    | nil => rfl
    | cons name names ih =>
      rw [List.flatMap_cons, List.append_assoc, List.append_assoc, List.singleton_append,
        List.splitOn_append_cons_self_of_not_mem (hnames name List.mem_cons_self).noSeparator,
        ih fun n hn => hnames n (List.mem_cons_of_mem name hn)]
      rfl
  have hroot : ('/' :: ((t.here.flatMap fun name => name.toList ++ ['/']) ++ p.text.toList)).splitOn
      '/' = [] :: (t.here.map String.toList ++ p.text.toList.splitOn '/') := by
    rw [← hnames t.here t.proper]
    exact List.splitOn_append_cons_self_of_not_mem List.not_mem_nil _
  rw [Path.parts, toList_cwd_join hp, List.cons_append, hroot, List.map_cons, List.map_append,
    List.map_map, Path.parts]
  simp [Function.comp_def]

/-- **A relative path leads to where it leads seen from the root**, if that is not too long. -/
theorem Finds.cwd_join {text : String} (h : t.Finds p text) (hp : p.isAbsolute = false)
    (hshort : (t.cwd.join p).text.utf8ByteSize ≤ maxPath) :
    t.Finds (t.cwd.join p) text := by
  have hchars := toList_cwd_join (t := t) hp
  have hparts := parts_cwd_join (t := t) hp
  have habsolute : (t.cwd.join p).isAbsolute = true := by
    rw [Path.isAbsolute, hchars]
    rfl
  have hstart : t.startOf (t.cwd.join p) = [] := by rw [startOf, habsolute, if_pos rfl]
  have hstartp : t.startOf p = t.here := by rw [startOf, hp, if_neg Bool.false_ne_true]
  have hdown : t.here.foldl next [] = t.here := foldl_next_proper t.proper []
  have hpasses : t.Passes t.here p.parts := hstartp ▸ h.passes
  -- a path has at least one part, so its walk has found the working directory to be one
  have hdirectory : t.DirectoryAt t.here := by
    cases hnames : p.parts with
    | nil => simp [Path.parts] at hnames
    | cons name names =>
      rw [hnames] at hpasses
      exact hpasses.1
  have hbelow : t.DirectoryAt ([] ++ t.here) := hdirectory
  have hroot : t.Passes [] ("" :: t.here) :=
    ⟨hbelow.of_append, .inl rfl, passes_proper t.proper hbelow⟩
  have hplace : t.placeOf (t.cwd.join p) = t.placeOf p := by
    rw [placeOf, placeOf, hstart, hstartp, hparts, List.foldl_cons, List.foldl_append]
    exact congrArg (p.parts.foldl next ·) hdown
  refine ⟨⟨?_, ?_, hshort⟩, ?_, ?_⟩
  · rw [fault?_eq_none_iff, hchars]
    have hzero := fault?_eq_none_iff.mp h.sound.noFault
    simp only [List.cons_append, List.mem_cons, List.mem_append, List.mem_flatMap, not_or]
    refine ⟨by decide, ?_, hzero⟩
    rintro ⟨name, hname, hmem⟩
    rcases hmem with hmem | hmem
    · exact (t.proper name hname).noZero hmem
    · simp at hmem
  · rw [Bool.eq_false_iff]
    intro hempty
    rw [String.isEmpty_iff.mp hempty] at hchars
    cases hchars
  · rw [hstart, hparts, ← List.cons_append]
    refine hroot.append ?_
    rw [List.foldl_cons]
    exact hdown.symm ▸ hpasses
  · rw [hplace, h.file]

end Joined

end FileTree

end Signpost
