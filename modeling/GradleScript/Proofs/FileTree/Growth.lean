import GradleScript.Proofs.FileTree.Nodes

/-!
# How a file tree grows

Directories that are made and files that are written leave every directory where it is. So a way
that has been taken through a tree can be taken again, and leads to the same place, whatever is
made and written later.

## Main definitions

* `FileTree.Grows`: directories stay directories
* `FileTree.AddsDirectories`: nothing changes but that there are more directories
* `FileTree.Writes`: nothing changes but the file at one location

## Main results

* `FileTree.Grows.walk`: a path that leads to a location leads there later on
* `FileTree.makeDir_cases`, `FileTree.makeChain_cons_cases`: what making directories can come to
* `FileTree.addsDirectories_makeDirs`: what making a directory and those above it does
* `FileTree.write_eq_ok_iff`: when writing a file succeeds, and with what
* `FileTree.exists_writes_of_write`: what writing a file does
-/

namespace GradleScript.FileTree

variable {t t' t'' : FileTree} {l m : Location} {name path : String}

/-- Every directory of a tree is one of the other tree. -/
structure Grows (t t' : FileTree) : Prop where
  current : t'.current = t.current
  directory : ∀ l, t.node? l = some .directory → t'.node? l = some .directory

/-- The other tree has more directories; everything else is the same. -/
structure AddsDirectories (t t' : FileTree) : Prop where
  current : t'.current = t.current
  node : ∀ l, t'.node? l = t.node? l ∨ t.node? l = none ∧ t'.node? l = some .directory

/-- The other tree has a file with this content at one location, in place of a file or of nothing;
everything else is the same. -/
structure Writes (t : FileTree) (l : Location) (content : ByteArray) (t' : FileTree) : Prop where
  current : t'.current = t.current
  free : t.node? l ≠ some .directory
  node : ∀ m, t'.node? m = if m = l then some (.file content) else t.node? m

namespace Grows

theorem refl (t : FileTree) : t.Grows t := ⟨rfl, fun _ h => h⟩

theorem trans (h : t.Grows t') (h' : t'.Grows t'') : t.Grows t'' :=
  ⟨h'.current.trans h.current, fun l hl => h'.directory l (h.directory l hl)⟩

end Grows

namespace AddsDirectories

theorem refl (t : FileTree) : t.AddsDirectories t := ⟨rfl, fun _ => .inl rfl⟩

theorem trans (h : t.AddsDirectories t') (h' : t'.AddsDirectories t'') : t.AddsDirectories t'' := by
  refine ⟨h'.current.trans h.current, fun l => ?_⟩
  rcases h.node l with e | ⟨none, directory⟩
  · rw [← e]
    exact h'.node l
  · -- a directory that the first step made was there for the second
    rcases h'.node l with e' | ⟨none', -⟩
    · exact .inr ⟨none, e'.trans directory⟩
    · simp [directory] at none'

theorem grows (h : t.AddsDirectories t') : t.Grows t' := by
  refine ⟨h.current, fun l hl => ?_⟩
  rcases h.node l with e | ⟨none, -⟩
  · exact e.trans hl
  · simp [hl] at none

/-- Files are what they were. -/
theorem fileAt? (h : t.AddsDirectories t') (l : Location) : t'.fileAt? l = t.fileAt? l := by
  rcases h.node l with e | ⟨none, directory⟩
  · exact fileAt?_congr e
  · rw [FileTree.fileAt?, FileTree.fileAt?, none, directory]

end AddsDirectories

namespace Writes

variable {content : ByteArray}

theorem grows (h : t.Writes l content t') : t.Grows t' := by
  refine ⟨h.current, fun m hm => ?_⟩
  rw [h.node, if_neg (fun e : m = l => h.free (e ▸ hm))]
  exact hm

theorem fileAt? (h : t.Writes l content t') (m : Location) :
    t'.fileAt? m = if m = l then some content else t.fileAt? m := by
  rw [FileTree.fileAt?, FileTree.fileAt?, h.node]
  by_cases e : m = l
  · rw [if_pos e, if_pos e]
  · rw [if_neg e, if_neg e]

end Writes

/-! ## Ways through a tree -/

/-- Where a step from a directory leads; a name must not be too long. -/
def stepTarget? (l : Location) : PathStep → Option Location
  | .stay => some l
  | .up => some l.dropLast
  | .enter name => if name.utf8ByteSize > maxNameLength then none else some (l ++ [name])

theorem step_eq_ok_iff {s : PathStep} :
    t.step l s = .ok m ↔ t.node? l = some .directory ∧ stepTarget? l s = some m := by
  unfold step node?
  cases t.find? l with
  | none => simp
  | some e =>
    cases e with
    | file content => simp [FileEntry.node]
    | directory entries =>
      rw [Option.map_some, FileEntry.node]
      cases s with
      | stay => simp [stepTarget?]
      | up => simp [stepTarget?]
      | enter name =>
        simp only [stepTarget?]
        split <;> simp

/-- Paths that are both absolute or both relative start from one place. -/
theorem start_congr {front : String} (absolute : Path.isAbsolute front = Path.isAbsolute path)
    (current : t'.current = t.current) : t'.start front = t.start path := by
  rw [start, start, absolute, current]

theorem walkToLast_eq_ok_iff {s : Option PathStep} : t.walkToLast path = .ok (l, s) ↔
    Path.failure? path = none ∧ t.walkFrom (t.start path) (Path.steps path).dropLast = .ok l ∧
      t.node? l = some .directory ∧ (Path.steps path).getLast? = s := by
  unfold walkToLast node?
  cases Path.failure? path with
  | some e => simp
  | none =>
    cases t.walkFrom (t.start path) (Path.steps path).dropLast with
    | error e => simp
    | ok m =>
      dsimp only
      cases hm : t.find? m with
      | none =>
        simp only [reduceCtorEq, false_iff]
        rintro ⟨-, same, directory, -⟩
        cases same
        simp [hm] at directory
      | some e =>
        cases e with
        | file content =>
          simp only [reduceCtorEq, false_iff]
          rintro ⟨-, same, directory, -⟩
          cases same
          simp [hm, FileEntry.node] at directory
        | directory entries =>
          simp only [Except.ok.injEq, Prod.mk.injEq, true_and]
          refine and_congr_right fun same => ?_
          subst same
          simp [hm, FileEntry.node]

namespace Grows

theorem step (h : t.Grows t') {s : PathStep} (hs : t.step l s = .ok m) : t'.step l s = .ok m := by
  obtain ⟨directory, target⟩ := step_eq_ok_iff.1 hs
  exact step_eq_ok_iff.2 ⟨h.directory l directory, target⟩

theorem walkFrom (h : t.Grows t') {steps : List PathStep} (hw : t.walkFrom l steps = .ok m) :
    t'.walkFrom l steps = .ok m := by
  induction steps generalizing l with
  | nil => exact hw
  | cons s rest ih =>
    rw [FileTree.walkFrom] at hw
    split at hw
    · next next hs =>
      rw [FileTree.walkFrom, h.step hs]
      exact ih hw
    · simp at hw

/-- A path that leads to a location leads there later on. -/
theorem walk (h : t.Grows t') (hw : t.walk path = .ok l) : t'.walk path = .ok l := by
  rw [FileTree.walk] at hw ⊢
  split at hw
  · simp at hw
  · rw [start_congr rfl h.current]
    exact h.walkFrom hw

end Grows

theorem walkFrom_append (t : FileTree) (l : Location) (front back : List PathStep) :
    t.walkFrom l (front ++ back) = (t.walkFrom l front).bind fun l => t.walkFrom l back := by
  induction front generalizing l with
  | nil => rfl
  | cons s front ih =>
    rw [List.cons_append, walkFrom, walkFrom]
    cases t.step l s with
    | error e => rfl
    | ok l => exact ih l

/-! ## Making directories -/

/-- A directory that is put into a directory where nothing is. -/
theorem addsDirectories_set (hd : t.node? l = some .directory)
    (free : t.node? (l ++ [name]) = none) :
    t.AddsDirectories (t.set (l ++ [name]) (.directory [])) := by
  have free' : t.node? (l ++ [name]) ≠ some .directory := by simp [free]
  refine ⟨current_set _ _ _, fun m => ?_⟩
  rw [node?_set FileEntry.isEmpty_directory hd free']
  split
  · next e => exact .inr ⟨e ▸ free, rfl⟩
  · exact .inl rfl

/-- What making one directory does: nothing when it fails; otherwise the directory that the step
leads to is there, and everything else is as it was. -/
theorem makeDir_cases (t : FileTree) (l : Location) (s : PathStep) :
    (∃ e, t.makeDir l s = (.error e, t)) ∨
      ∃ m t', t.makeDir l s = (.ok m, t') ∧ t.step l s = .ok m ∧ t.AddsDirectories t' ∧
        t'.node? m = some .directory ∧ ∀ k, k ≠ m → t'.node? k = t.node? k := by
  rw [makeDir]
  split
  · exact .inl ⟨_, rfl⟩
  · next target hs =>
    obtain ⟨directory, target_eq⟩ := step_eq_ok_iff.1 hs
    split
    · next none =>
      have none := find?_eq_none_iff.1 none
      -- only a step by name leads from a directory to a place where nothing is
      cases s with
      | stay =>
        cases target_eq
        simp [directory] at none
      | up =>
        cases target_eq
        simp [node?_dropLast directory] at none
      | enter name =>
        rw [stepTarget?] at target_eq
        split at target_eq
        · simp at target_eq
        · cases target_eq
          have free : t.node? (l ++ [name]) ≠ some .directory := by simp [none]
          have made := node?_set FileEntry.isEmpty_directory directory free
          exact .inr ⟨_, _, rfl, hs, addsDirectories_set directory none,
            (made _).trans (if_pos rfl), fun k hk => (made k).trans (if_neg hk)⟩
    · next there =>
      exact .inr ⟨_, _, rfl, hs, .refl t, node?_eq_directory_iff.2 ⟨_, there⟩, fun _ _ => rfl⟩
    · exact .inl ⟨_, rfl⟩

theorem addsDirectories_makeDir (t : FileTree) (l : Location) (s : PathStep) :
    t.AddsDirectories (t.makeDir l s).2 := by
  rcases t.makeDir_cases l s with ⟨e, h⟩ | ⟨m, t', h, -, adds, -⟩
  · rw [h]
    exact .refl t
  · rw [h]
    exact adds

/-- What making a chain of directories does: its last directory is made in its place, or it is made
after those in front of it, unless one of them cannot be reached or made. -/
theorem makeChain_cons_cases (t : FileTree) (base : Location) (s : PathStep)
    (before : List PathStep) :
    (∃ e, t.makeChain base (s :: before) = (.error e, t)) ∨
      (∃ l, t.walkFrom base before.reverse = .ok l ∧
        t.makeChain base (s :: before) = t.makeDir l s) ∨
      (∃ l t₁, t.makeChain base before = (.ok l, t₁) ∧
        t.makeChain base (s :: before) = t₁.makeDir l s) ∨
      ∃ e t₁, t.makeChain base before = (.error e, t₁) ∧
        t.makeChain base (s :: before) = (.error e, t₁) := by
  rw [makeChain]
  split
  · split
    · next l t₁ made => exact .inr (.inr (.inl ⟨l, t₁, made, rfl⟩))
    · next failed =>
      cases h : t.makeChain base before with
      | mk r t₁ =>
        cases r with
        | ok l => exact absurd h (failed l t₁)
        | error e => exact .inr (.inr (.inr ⟨e, t₁, rfl, rfl⟩))
  · split
    · next l walked => exact .inr (.inl ⟨l, walked, rfl⟩)
    · exact .inl ⟨_, rfl⟩

/-- Whatever was made on the way is there even if a later step fails. -/
theorem addsDirectories_makeChain (t : FileTree) (base : Location) (steps : List PathStep) :
    t.AddsDirectories (t.makeChain base steps).2 := by
  -- the steps are given from the last to the first, so the hypothesis is on the chain in front
  induction steps with
  | nil => exact .refl t
  | cons s before ih =>
    rcases t.makeChain_cons_cases base s before with
      ⟨e, h⟩ | ⟨l, -, h⟩ | ⟨l, t₁, made, h⟩ | ⟨e, t₁, failed, h⟩
    · rw [h]
      exact .refl t
    · rw [h]
      exact addsDirectories_makeDir t l s
    · rw [made] at ih
      rw [h]
      exact ih.trans (addsDirectories_makeDir t₁ l s)
    · rw [failed] at ih
      rw [h]
      exact ih

/-- Making a directory and those above it changes nothing else, whether it succeeds or fails. -/
theorem addsDirectories_makeDirs (t : FileTree) (path : String) :
    t.AddsDirectories (t.makeDirs path).2 := by
  unfold makeDirs
  split
  · exact .refl t
  · exact .refl t
  · exact addsDirectories_makeChain _ _ _

/-! ## Writing -/

/-- A file that is put into a directory, in place of a file or of nothing. -/
theorem writes_set (hd : t.node? l = some .directory)
    (free : t.node? (l ++ [name]) ≠ some .directory) (content : ByteArray) :
    t.Writes (l ++ [name]) content (t.set (l ++ [name]) (.file content)) :=
  ⟨current_set _ _ _, free, node?_set (FileEntry.isEmpty_file content) hd free⟩

/-- A path whose last step is by name leads from the directory before that step to the name. -/
theorem walk_of_walkToLast (h : t.walkToLast path = .ok (l, some (.enter name)))
    (short : ¬ name.utf8ByteSize > maxNameLength) :
    t.node? l = some .directory ∧ t.walk path = .ok (l ++ [name]) := by
  obtain ⟨wellFormed, walked, directory, last⟩ := walkToLast_eq_ok_iff.1 h
  obtain ⟨front, steps⟩ := List.getLast?_eq_some_iff.1 last
  have step : t.step l (.enter name) = .ok (l ++ [name]) :=
    step_eq_ok_iff.2 ⟨directory, if_neg short⟩
  rw [steps, List.dropLast_concat] at walked
  refine ⟨directory, ?_⟩
  rw [walk, wellFormed]
  dsimp only
  rw [steps, walkFrom_append, walked]
  simp only [Except.bind, walkFrom, step]

/-- A file is written below the directory that its path leads to before the last step, under the
name of that step. Nothing but a directory in its place or a bad name stands in the way. -/
theorem write_eq_ok_iff {text : String} : t.write path text = .ok t' ↔
    ∃ l name, t.walkToLast path = .ok (l, some (.enter name)) ∧ endsWithSlash path = false ∧
      ¬ name.utf8ByteSize > maxNameLength ∧ t.node? (l ++ [name]) ≠ some .directory ∧
      t' = t.set (l ++ [name]) (.file text.toUTF8) := by
  unfold write writeBytes
  constructor
  · intro h
    split at h
    · simp at h
    next l name walked =>
      split at h
      · simp at h
      next noSlash =>
      split at h
      · simp at h
      next short =>
      split at h
      · simp at h
      next free =>
      refine ⟨l, name, walked, Bool.eq_false_iff.2 noSlash, short, ?_, (Except.ok.inj h).symm⟩
      intro h
      obtain ⟨entries, h⟩ := node?_eq_directory_iff.1 h
      exact free entries h
    · simp at h
  · rintro ⟨l, name, walked, noSlash, short, free, rfl⟩
    simp only [walked, noSlash, Bool.false_eq_true, if_false, if_neg short]
    split
    · next entries there => exact absurd (node?_eq_directory_iff.2 ⟨entries, there⟩) free
    · rfl

/-- **A file that is written** is where its path leads, and it has the text that was written. -/
theorem exists_writes_of_write {text : String} (h : t.write path text = .ok t') :
    ∃ l, t.walk path = .ok l ∧ endsWithSlash path = false ∧ t.Writes l text.toUTF8 t' := by
  obtain ⟨l, name, walked, noSlash, short, free, rfl⟩ := write_eq_ok_iff.1 h
  obtain ⟨directory, walk⟩ := walk_of_walkToLast walked short
  exact ⟨l ++ [name], walk, noSlash, writes_set directory free _⟩

/-! ## Reading -/

theorem fromUTF8?_toUTF8 (text : String) : String.fromUTF8? text.toUTF8 = some text :=
  dif_pos text.isValidUTF8

/-- A text that has been written is read again. -/
theorem read_eq_ok {text : String} (hw : t.walk path = .ok l)
    (hf : t.fileAt? l = some text.toUTF8) (noSlash : endsWithSlash path = false) :
    t.read path = .ok text := by
  have found := node?_eq_file_iff.1 (fileAt?_eq_some_iff.1 hf)
  simp only [read, hw, found, noSlash, fromUTF8?_toUTF8]
  rfl

end GradleScript.FileTree
