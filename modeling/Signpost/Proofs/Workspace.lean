/-
`Proofs/Workspace.lean` -- saved settings load back.

Saving makes the directories above the file and then writes it. Whatever was in the tree before,
what is left after a success is a file at the path, with the text of the settings. Loading looks for
a file first. An absolute path is taken as it is; a relative one is tried seen from the root, behind
the working directory and then behind those above it. Saving does not change the working directory
(`Stays`), so the first try is the file that was written, and its text reads back as the settings.

That takes a path that can still be looked up when it is seen from the root. One that is just short
enough by itself leads to the file, but is too long behind the working directory: then no file is
found, and none is missed either, as a missing file sets nothing (`long_path_loads_usual_settings`).
-/
import Signpost.Workspace
import Signpost.Proofs.Files
import Signpost.Proofs.Settings.Layers

set_option autoImplicit false

namespace Signpost

namespace FileTree

/-! ## Actions on a tree -/

section Actions

variable {ε ε' α β : Type}

/-- The outcome of an action on a tree, and the tree that it leaves. -/
def act (t : FileTree) (action : ExceptT ε (StateM FileTree) α) : Except ε α × FileTree :=
  action.run.run t

/-- One action after another: the second runs on the tree that the first leaves, unless that fails.
-/
theorem act_bind (t : FileTree) (action : ExceptT ε (StateM FileTree) α)
    (f : α → ExceptT ε (StateM FileTree) β) :
    t.act (action >>= f) = match t.act action with
      | (.ok a, t') => t'.act (f a)
      | (.error e, t') => (.error e, t') := by
  rw [act, ExceptT.run_bind, StateT.run_bind, act]
  rcases action.run.run t with ⟨r, t'⟩
  cases r <;> rfl

/-- A failure is handed on with the tree as it is then, not as it was. -/
theorem act_tryCatch (t : FileTree) (action : ExceptT ε (StateM FileTree) α)
    (f : ε → ExceptT ε (StateM FileTree) α) :
    t.act (tryCatch action f) = match t.act action with
      | (.ok a, t') => (.ok a, t')
      | (.error e, t') => t'.act (f e) := by
  have hrun : t.act (tryCatch action f) = (do
      match ← action.run with
      | .ok a => pure (.ok a)
      | .error e => (f e).run : StateM FileTree (Except ε α)).run t := rfl
  rw [hrun, StateT.run_bind, act]
  rcases action.run.run t with ⟨r, t'⟩
  cases r <;> rfl

/-- Renaming a failure has nothing to do with the tree. -/
theorem act_adapt (t : FileTree) (action : ExceptT ε (StateM FileTree) α) (f : ε → ε') :
    t.act (action.adapt f) = ((t.act action).1.mapError f, (t.act action).2) := rfl

/-- A change that fails leaves the tree alone. -/
theorem act_change (t : FileTree) (f : FileTree → Except FileError FileTree) :
    t.act (change f) = match f t with
      | .ok t' => (.ok (), t')
      | .error e => (.error e, t) := by
  cases h : f t with
  | ok t' =>
    simp only [act, change, ExceptT.run_mk, StateT.run_bind, StateT.run_get, pure_bind, h]
    rfl
  | error e =>
    simp only [act, change, ExceptT.run_mk, StateT.run_bind, StateT.run_get, pure_bind, h]
    rfl

/-- What cannot fail succeeds. -/
theorem act_lift (t : FileTree) (action : StateM FileTree α) :
    t.act (liftM action : ExceptT ε (StateM FileTree) α)
      = (.ok (action.run t).1, (action.run t).2) := rfl

/-! ## The working directory -/

/-- An action that does not change the working directory. -/
def Stays (action : ExceptT ε (StateM FileTree) α) : Prop :=
  ∀ t : FileTree, (t.act action).2.here = t.here

theorem stays_pure (a : α) : Stays (pure a : ExceptT ε (StateM FileTree) α) := fun _ => rfl

theorem stays_throw (e : ε) : Stays (throw e : ExceptT ε (StateM FileTree) α) := fun _ => rfl

/-- Two actions that stay where they are stay there one after the other. -/
theorem Stays.bind {action : ExceptT ε (StateM FileTree) α}
    {f : α → ExceptT ε (StateM FileTree) β} (ha : Stays action) (hf : ∀ a, Stays (f a)) :
    Stays (action >>= f) := by
  intro t
  have hfirst := ha t
  rw [act_bind]
  rcases h : t.act action with ⟨r, t'⟩
  rw [h] at hfirst
  cases r with
  | ok a => exact (hf a t').trans hfirst
  | error e => exact hfirst

/-- So does one with another in its place when it fails. -/
theorem Stays.tryCatch {action : ExceptT ε (StateM FileTree) α}
    {f : ε → ExceptT ε (StateM FileTree) α} (ha : Stays action) (hf : ∀ e, Stays (f e)) :
    Stays (tryCatch action f) := by
  intro t
  have hfirst := ha t
  rw [act_tryCatch]
  rcases h : t.act action with ⟨r, t'⟩
  rw [h] at hfirst
  cases r with
  | ok a => exact hfirst
  | error e => exact (hf e t').trans hfirst

/-- Asking for a directory changes nothing at all. -/
theorem stays_isDir (p : Path) :
    Stays (liftM (Files.isDir (m := StateM FileTree) p) : ExceptT ε (StateM FileTree) Bool) :=
  fun _ => rfl

/-- A directory is made below the root, and the working directory is where it was. -/
theorem here_of_makeDir {t t' : FileTree} {p : Path} (h : t.makeDir p = .ok t') :
    t'.here = t.here := by
  obtain ⟨trail, -, h⟩ := exists_of_bind_eq_ok h
  split at h
  · cases h
  · cases h
    rfl

theorem stays_makeDir (p : Path) :
    Stays (MonadFiles.makeDir p : ExceptT FileError (StateM FileTree) Unit) := by
  intro t
  have hact := act_change t fun t => t.makeDir p
  change (t.act (change fun t => t.makeDir p)).2.here = t.here
  rw [hact]
  cases h : t.makeDir p with
  | ok t' => exact here_of_makeDir h
  | error e => rfl

theorem stays_ensureDir (p : Path) : Stays (Files.ensureDir (m := StateM FileTree) p) := by
  refine (stays_makeDir p).tryCatch fun e => (stays_isDir p).bind fun b => ?_
  cases b with
  | true => exact stays_pure ()
  | false => exact stays_throw e

/-- All directories of a chain are made from the same working directory. -/
theorem stays_ensureChain (ps : List Path) :
    Stays (Files.ensureChain (m := StateM FileTree) ps) := by
  induction ps with
  | nil => exact stays_pure ()
  | cons p above ih =>
    rw [Files.ensureChain]
    split
    · exact stays_pure ()
    · refine (stays_makeDir p).tryCatch fun e => ?_
      split
      · exact ih.bind fun _ => stays_ensureDir p
      · refine (stays_isDir p).bind fun b => ?_
        cases b with
        | true => exact stays_pure ()
        | false => exact stays_throw e

end Actions

end FileTree

namespace Workspace

open FileTree

/-! ## Saving and loading -/

/-- Writing is one change of the tree. -/
theorem act_writeText (t : FileTree) (p : Path) (text : String) :
    t.act (MonadFiles.writeText p text) = match t.writeText p text with
      | .ok t' => (.ok (), t')
      | .error e => (.error e, t) := act_change t fun t => t.writeText p text

/-- Settings that were saved are written to the file. -/
theorem exists_of_save {t t' : FileTree} {s : Settings} {p : Path}
    (h : t.act (save s p) = (.ok (), t')) :
    ∃ t₁ : FileTree, t₁.here = t.here ∧ t₁.writeText p s.print = .ok t' := by
  rw [save] at h
  split at h
  · cases h
  · next dir _ =>
    rw [act_bind, act_adapt] at h
    -- whatever directories were made, the file is written after them and from the same place
    have hhere := stays_ensureChain dir.ancestors t
    rcases hdirs : t.act (Files.makeDirs (m := StateM FileTree) dir) with ⟨r, t₁⟩
    rw [Files.makeDirs] at hdirs h
    rw [hdirs] at hhere h
    cases r with
    | error e => cases h
    | ok _ =>
      refine ⟨t₁, hhere, ?_⟩
      dsimp only [Except.mapError] at h
      rw [act_adapt, act_writeText] at h
      cases hwrite : t₁.writeText p s.print with
      | error e =>
        rw [hwrite] at h
        cases h
      | ok t₂ =>
        rw [hwrite] at h
        cases h
        rfl

section Finding

variable {t : FileTree} {p : Path}

/-- The first path that leads to a file is found. -/
theorem run_firstFile_cons (t : FileTree) (p : Path) (rest : List Path) :
    (firstFile (m := StateM FileTree) (p :: rest)).run t
      = if t.kind? p = some .file then (some p, t)
        else (firstFile (m := StateM FileTree) rest).run t := by
  have hkind : (Files.isFile (m := StateM FileTree) p).run t
      = (decide (t.kind? p = some .file), t) := rfl
  rw [firstFile, StateT.run_bind, hkind]
  by_cases hfile : t.kind? p = some .file
  · rw [decide_eq_true hfile, if_pos hfile]
    rfl
  · rw [decide_eq_false hfile, if_neg hfile]
    rfl

/-- A relative path is tried behind the working directory and then behind those above it. -/
theorem run_findFile?_of_relative (hp : p.isAbsolute = false) :
    (findFile? (m := StateM FileTree) p).run t
      = (firstFile (m := StateM FileTree) (t.cwd.ancestors.map fun dir => dir.join p)).run t := by
  rw [findFile?, hp, if_neg Bool.false_ne_true, StateT.run_bind]
  rfl

/-- The file that a path stands for is found where it was written. -/
theorem findFile?_of_finds {text : String} (h : t.Finds p text)
    (hshort : p.isAbsolute = true ∨ (t.cwd.join p).text.utf8ByteSize ≤ maxPath) :
    ∃ file, t.Finds file text ∧ (findFile? (m := StateM FileTree) p).run t = (some file, t) := by
  by_cases hp : p.isAbsolute = true
  · refine ⟨p, h, ?_⟩
    rw [findFile?, if_pos hp, run_firstFile_cons, if_pos h.kind?_eq]
  · have hrelative : p.isAbsolute = false := Bool.eq_false_iff.mpr hp
    have hjoined := h.cwd_join hrelative (hshort.resolve_left hp)
    have hdirs : t.cwd.ancestors.map (fun dir => dir.join p)
        = t.cwd.join p :: (t.cwd.ancestors.map fun dir => dir.join p).tail := rfl
    refine ⟨t.cwd.join p, hjoined, ?_⟩
    rw [run_findFile?_of_relative hrelative, hdirs, run_firstFile_cons, if_pos hjoined.kind?_eq]

end Finding

/-- **What was saved is loaded**, as far as the path can be looked up from the root and the
environment sets nothing. -/
theorem loadFrom_of_save {t t' : FileTree} {p : Path}
    (hshort : p.isAbsolute = true ∨ (t.cwd.join p).text.utf8ByteSize ≤ maxPath) {s : Settings}
    (hs : s.Fits) {env : Environment} (henv : ∀ v ∈ env, Environment.afterMark? v.1 = none)
    (hsave : t.act (save s p) = (.ok (), t')) :
    t'.act (loadFrom env p) = (s.checked, t') := by
  obtain ⟨t₁, hhere₁, hwrite⟩ := exists_of_save hsave
  obtain ⟨hhere', hfinds⟩ := finds_of_writeText hwrite
  have hsame : t'.here = t.here := hhere'.trans hhere₁
  have hcwd : t'.cwd = t.cwd := by rw [cwd, cwd, hsame]
  rw [← hcwd] at hshort
  obtain ⟨file, hfile, hfound⟩ := findFile?_of_finds hfinds hshort
  have hread : t'.act ((MonadFiles.readText file).adapt fun _ => Failure.config .unreadable)
      = (.ok s.print, t') := by
    rw [act_adapt]
    change (Except.mapError _ (t'.readText file), t') = _
    rw [hfile.readText_eq]
    rfl
  have hload : t'.act (liftM (Settings.load (some s.print) env)) = (s.checked, t') := by
    rw [Settings.load_print hs henv]
    cases s.checked <;> rfl
  rw [loadFrom, act_bind, act_lift, hfound]
  dsimp only
  rw [act_bind, hread]
  exact hload

/-- **Saved settings load back unchanged**, whatever the file system held before and wherever the
file is, unless their delimiter can not be used, and then that is what is said. A relative path is
looked up from the root, and has to be short enough for that. Nothing of this hangs on what the file
looks like: any printer and reader that are inverse to each other, and any recursive merge of the
layers, bring back every one of the settings. -/
theorem saved_settings_load_back {t t' : FileTree} {p : Path}
    (hshort : p.isAbsolute = true ∨ (t.cwd.join p).text.utf8ByteSize ≤ maxPath) {s : Settings}
    (hs : s.Fits) {env : Environment} (henv : ∀ v ∈ env, Environment.afterMark? v.1 = none)
    (hsave : t.act (save s p) = (.ok (), t')) :
    (Signature.isDelimiter s.signatures.delimiter = true →
      t'.act (loadFrom env p) = (.ok s, t'))
    ∧ (Signature.isDelimiter s.signatures.delimiter = false →
      t'.act (loadFrom env p) = (.error (.config (.stated ("signatures.delimiter '"
        ++ s.signatures.delimiter.toString ++ "' can occur inside a base signature"))), t'))
    ∧ ∀ (c : Toml.Codec) (m : Toml.Merge),
      ((c.read? (c.print s.entries)).bind fun file =>
        Settings.ofLayers? (m.onTop (.table []) (m.onTop file Settings.default.toToml))) = some s := by
  have hload := loadFrom_of_save hshort hs henv hsave
  rw [Settings.checked] at hload
  refine ⟨?_, ?_, Settings.comes_back hs⟩
  · intro hdelimiter
    rwa [if_pos hdelimiter] at hload
  · intro hdelimiter
    rwa [if_neg (Bool.eq_false_iff.mp hdelimiter)] at hload

/-- Settings in which little is left of the usual ones. -/
def emptied : Settings where
  debug := true
  indexPath := ⟨""⟩
  templates :=
    { transFunction := "", routeFunctions := [], fileTags := ["a\n'b\"", ""], fileFunctions := [] }
  container := { maxAliasDepth := 0, maxParentDepth := 0x7FFFFFFFFFFFFFFF }

/-- A tree with nothing but the working directory. -/
def emptyHome : FileTree := { here := ["home"], root := FileNode.put .bare ["home"] .bare }

/-- An empty text, empty lists, a zero and the largest number that a file can hold come back from a
directory that saving had to make, under a variable that is none of the library's. -/
theorem saved_settings_load_back_emptied : ∃ t' : FileTree,
    emptyHome.act (save emptied ⟨"nested/settings.toml"⟩) = (.ok (), t')
    ∧ t'.act (loadFrom [("HOME", "/home")] ⟨"nested/settings.toml"⟩) = (.ok emptied, t') := by
  have hsave : emptyHome.act (save emptied ⟨"nested/settings.toml"⟩)
      = (.ok (), (emptyHome.act (save emptied ⟨"nested/settings.toml"⟩)).2) :=
    Prod.ext (by decide +kernel) rfl
  have henv : ∀ v ∈ [("HOME", "/home")], Environment.afterMark? v.1 = none := by decide +kernel
  exact ⟨_, hsave, (saved_settings_load_back (.inr (by decide +kernel))
    ⟨by decide, by decide, by decide⟩ henv hsave).1 (by decide +kernel)⟩

/-! ## A path that is too long from the root -/

section Padded

/-- A file in the working directory, with more separators than it takes. -/
def padded (n : Nat) : Path :=
  ⟨"." ++ String.ofList (List.replicate (n + 1) '/') ++ "s.toml"⟩

theorem toList_padded (n : Nat) :
    (padded n).text.toList = '.' :: '/' :: (List.replicate n '/' ++ "s.toml".toList) := by
  simp only [padded, String.toList_append, String.toList_ofList, List.replicate_succ,
    List.append_assoc]
  rfl

/-- The separators in the middle make names that are empty, so the path leads to the same file for
every length. -/
theorem parts_padded (n : Nat) : (padded n).parts = "." :: (List.replicate n "" ++ ["s.toml"]) := by
  have hpadding : (List.replicate n '/' ++ "s.toml".toList).splitOn '/'
      = List.replicate n [] ++ ["s.toml".toList] := by
    induction n with
    | zero => rfl
    | succ n ih =>
      rw [List.replicate_succ, List.replicate_succ, List.cons_append, List.cons_append, ← ih]
      exact List.splitOn_append_cons_self_of_not_mem List.not_mem_nil _
  have hfree : '/' ∉ ['.'] := by decide
  have hdot : ('.' :: '/' :: (List.replicate n '/' ++ "s.toml".toList)).splitOn '/'
      = ['.'] :: (List.replicate n '/' ++ "s.toml".toList).splitOn '/' :=
    List.splitOn_append_cons_self_of_not_mem hfree _
  rw [Path.parts, toList_padded, hdot, hpadding]
  simp

/-- Each separator takes a byte. -/
theorem utf8ByteSize_padded (n : Nat) : (padded n).text.utf8ByteSize = n + 8 := by
  have hseparators : ∀ n, (String.ofList (List.replicate n '/')).utf8ByteSize = n := by
    intro n
    induction n with
    | zero => rfl
    | succ n ih =>
      rw [List.replicate_succ, String.ofList_cons, String.utf8ByteSize_append, ih,
        String.utf8ByteSize_singleton]
      exact Nat.add_comm 1 n
  rw [padded, String.utf8ByteSize_append, String.utf8ByteSize_append, hseparators]
  have hdot : ".".utf8ByteSize = 1 := rfl
  have hname : "s.toml".utf8ByteSize = 6 := rfl
  omega

theorem isAbsolute_padded (n : Nat) : (padded n).isAbsolute = false := by
  rw [Path.isAbsolute, toList_padded]
  rfl

/-- The directory to be made is the working directory, so nothing has to be made. -/
theorem parent?_padded (n : Nat) : (padded n).parent? = some ⟨"."⟩ := by
  have hhere : (padded n).startsHere = true := by
    rw [Path.startsHere, parts_padded]
    rfl
  have hbody : Path.dropIdle (List.replicate n "" ++ ["s.toml"])
      = List.replicate n "" ++ ["s.toml"] := by
    have hname : Path.isIdle "s.toml" = false := by decide
    rw [Path.dropIdle, List.reverse_concat, List.dropWhile_cons_of_neg (by simp [hname]),
      ← List.reverse_concat, List.reverse_reverse]
  have hrest : Path.dropIdle (List.replicate n "") = [] := by
    have hidle : Path.isIdle "" = true := by decide
    simp [Path.dropIdle, hidle]
  rw [Path.parent?, isAbsolute_padded, hhere, parts_padded]
  simp [hbody, hrest]

/-- The path ends in a name. -/
theorem endsOpen_padded (n : Nat) : endsOpen (padded n) = false := by
  have hlast : (padded n).text.toList.getLast? = some 'l' := by
    rw [toList_padded, ← List.cons_append, ← List.cons_append]
    exact List.getLast?_append_of_ne_nil _ (by decide)
  rw [endsOpen, hlast]
  rfl

/-- All names of the path but the last one lead nowhere else. -/
theorem isIdle_padded (n : Nat) : ∀ name ∈ "." :: List.replicate n "", Path.isIdle name = true := by
  intro name hname
  rcases List.mem_cons.mp hname with rfl | hname
  · rfl
  · rw [(List.mem_replicate.mp hname).2]
    rfl

/-- The path by itself can be looked up. -/
theorem sound_padded {n : Nat} (hn : n + 8 ≤ maxPath) : Sound (padded n) := by
  refine ⟨?_, ?_, ?_⟩
  · rw [fault?_eq_none_iff, toList_padded]
    simp
  · rw [Bool.eq_false_iff]
    intro hempty
    have hchars := toList_padded n
    rw [String.isEmpty_iff.mp hempty] at hchars
    cases hchars
  · rw [utf8ByteSize_padded]
    exact hn

/-- The file is written. -/
theorem exists_save_padded {n : Nat} (hn : n + 8 ≤ maxPath) (s : Settings) :
    ∃ t' : FileTree, ({} : FileTree).act (save s (padded n)) = (.ok (), t') ∧ t'.here = []
      ∧ t'.readText (padded n) = .ok s.print := by
  have hroot : ({} : FileTree).DirectoryAt [] := ⟨∅, rfl⟩
  -- all parts but the last count for nothing, so the file stands in the root
  have hidle := isIdle_padded n
  have hparts : (padded n).parts = ("." :: List.replicate n "") ++ ["s.toml"] := parts_padded n
  have hplace : ({} : FileTree).placeOf (padded n) = ["s.toml"] := by
    rw [placeOf, startOf, isAbsolute_padded, hparts, List.foldl_append,
      foldl_next_idle hidle]
    rfl
  have hpasses : ({} : FileTree).Passes (({} : FileTree).startOf (padded n)) (padded n).parts := by
    rw [startOf, isAbsolute_padded, hparts]
    refine (passes_idle hidle hroot).append ?_
    rw [foldl_next_idle hidle]
    exact ⟨hroot, .inr (.inr (by decide)), trivial⟩
  have hnone : ¬ ({} : FileTree).DirectoryAt (({} : FileTree).placeOf (padded n)) := by
    rw [hplace]
    rintro ⟨es, hes⟩
    cases hes
  have hwrite := (@writeText_eq_ok_iff {} (padded n) s.print _).mpr
    ⟨endsOpen_padded n, sound_padded hn, hpasses, hnone, rfl⟩
  have hdirs : ({} : FileTree).act (Files.makeDirs (m := StateM FileTree) ⟨"."⟩) = (.ok (), {}) :=
    rfl
  obtain ⟨hhere, hfinds⟩ := finds_of_writeText hwrite
  refine ⟨_, ?_, hhere, hfinds.readText_eq⟩
  rw [save, parent?_padded]
  dsimp only
  rw [act_bind, act_adapt, hdirs]
  dsimp only [Except.mapError]
  rw [act_adapt, act_writeText, hwrite]
  rfl

/-- A path that is too long leads to no file. -/
theorem kind?_of_long {t : FileTree} {p : Path} (h : maxPath < p.text.utf8ByteSize) :
    t.kind? p = none := by
  cases hlocate : t.locate p with
  | error e => rw [kind?, hlocate]
  | ok trail => exact absurd (locate_eq_ok_iff.mp hlocate).1.short (Nat.not_le.mpr h)

/-- Seen from the root, the path takes one more separator. -/
theorem loadFrom_padded {n : Nat} (hn : maxPath < n + 9) {t : FileTree} (hhere : t.here = []) :
    t.act (loadFrom [] (padded n)) = (.ok .default, t) := by
  have hlong : maxPath < ((⟨"/"⟩ : Path).join (padded n)).text.utf8ByteSize := by
    have hroot : (⟨"/"⟩ : Path).join (padded n) = ⟨"/" ++ (padded n).text⟩ := by
      rw [Path.join, isAbsolute_padded]
      rfl
    have hone : "/".utf8ByteSize = 1 := rfl
    rw [hroot, String.utf8ByteSize_append, utf8ByteSize_padded, hone]
    omega
  have hnone : ¬ t.kind? ((⟨"/"⟩ : Path).join (padded n)) = some .file := by
    simp [kind?_of_long hlong]
  have hfind : (findFile? (m := StateM FileTree) (padded n)).run t = (none, t) := by
    -- there is no directory above the root to look in
    have hdirs : (t.cwd.ancestors.map fun dir => dir.join (padded n))
        = [(⟨"/"⟩ : Path).join (padded n)] := by
      rw [cwd, hhere]
      rfl
    rw [run_findFile?_of_relative (isAbsolute_padded n), hdirs, run_firstFile_cons, if_neg hnone]
    rfl
  rw [loadFrom, act_bind, act_lift, hfind]
  rfl

/-- **A file that is there but too far from the root is passed over.** The path is short enough by
itself and one byte too long behind the root. Saving writes the settings and reading the file gives
their text, but what is loaded are the usual settings. -/
theorem long_path_loads_usual_settings :
    let s : Settings := { debug := true }
    let saved := ({} : FileTree).act (save s (padded 4087))
    s.Fits ∧ Signature.isDelimiter s.signatures.delimiter = true
      ∧ saved.1 = .ok () ∧ saved.2.readText (padded 4087) = .ok s.print
      ∧ saved.2.act (loadFrom [] (padded 4087)) = (.ok .default, saved.2)
      ∧ Settings.default ≠ s := by
  intro s saved
  obtain ⟨t', hsave, hhere, hread⟩ := @exists_save_padded 4087 (by decide) s
  have hsaved : saved = (.ok (), t') := hsave
  rw [hsaved]
  exact ⟨⟨by decide, by decide, by decide⟩, by decide +kernel, rfl, hread,
    loadFrom_padded (by decide) hhere, by decide⟩

end Padded

end Workspace

end Signpost
