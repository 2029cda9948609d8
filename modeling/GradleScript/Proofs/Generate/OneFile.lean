import GradleScript.Generate
import GradleScript.Proofs.FileTree.Making

/-!
# One file on a disk

A file is written in two stages: its directory is made, with those above it, and then the file is
written there. Either stage can fail, and what the first one made stays if the second one fails.

## Main definitions

* `FileTree.Denotes`: a path leads to a location
* `FileTree.makeParent`, `FileTree.writeTarget`, `FileTree.writeFile`: the two stages on a file tree
  and both in turn
* `FileTree.MadeFor`: a directory was made on the way to a target

## Main results

* `run_onDisk_write`: a sink on a file tree writes its files in the two stages
* `FileTree.writeFile_cases`: what the two stages can come to
* `onDisk_write_touches`: what a write changes, whether it succeeds or fails
-/

namespace GradleScript

namespace FileTree

variable {t t' t₁ : FileTree} {path target text : String} {l m : Location}

/-- A path leads to a location. -/
def Denotes (t : FileTree) (path : String) (l : Location) : Prop := t.walk path = .ok l

instance (t : FileTree) (path : String) (l : Location) : Decidable (t.Denotes path l) :=
  inferInstanceAs (Decidable (t.walk path = .ok l))

theorem Denotes.unique (hl : t.Denotes path l) (hm : t.Denotes path m) : l = m :=
  Except.ok.inj (hl.symm.trans hm)

/-! ## The two stages -/

/-- Makes the directory of a target, if the target has one. -/
def makeParent (t : FileTree) (target : String) : Except WriteError Unit × FileTree :=
  match Path.parent? target with
  | none => (.ok (), t)
  | some directory =>
    match t.makeDirs directory with
    | (.ok (), t₁) => (.ok (), t₁)
    | (.error failure, t₁) => (.error (.makeFailed directory failure), t₁)

/-- Writes a target whose directory is there. -/
def writeTarget (t : FileTree) (target text : String) : Except WriteError Unit × FileTree :=
  match t.write target text with
  | .error failure => (.error (.writeFailed target failure), t)
  | .ok t' => (.ok (), t')

/-- Writes a file after making its directory. -/
def writeFile (t : FileTree) (target text : String) : Except WriteError Unit × FileTree :=
  match t.makeParent target with
  | (.error e, t₁) => (.error e, t₁)
  | (.ok (), t₁) => t₁.writeTarget target text

/-- The two stages fail in the first one, in the second one, or not at all. -/
theorem writeFile_cases (t : FileTree) (target text : String) :
    (∃ e, t.writeFile target text = (.error e, (t.makeParent target).2)) ∨
      ∃ t', (t.makeParent target).1 = .ok () ∧ (t.makeParent target).2.write target text = .ok t' ∧
        t.writeFile target text = (.ok (), t') := by
  rw [writeFile]
  rcases t.makeParent target with ⟨e | ⟨⟩, t₁⟩
  · exact .inl ⟨e, rfl⟩
  · dsimp only
    rw [writeTarget]
    cases hw : t₁.write target text with
    | error failure => exact .inl ⟨_, rfl⟩
    | ok t' => exact .inr ⟨t', rfl, rfl, rfl⟩

end FileTree

/-- The second stage, as the program has it, given what it makes of the two outcomes of a write. -/
theorem run_write_bind (t : FileTree) {target text : String}
    {finish : Except FileFailure Unit → StateM FileTree (Except WriteError Unit)}
    (ok : finish (.ok ()) = pure (.ok ()))
    (error : ∀ failure, finish (.error failure) = pure (.error (.writeFailed target failure))) :
    (FileTree.disk.write target text >>= finish).run t = t.writeTarget target text := by
  rw [StateT.run_bind, FileTree.writeTarget]
  simp only [FileTree.disk, StateT.run]
  cases t.write target text with
  | error failure => exact congrArg (fun m => StateT.run m t) (error failure)
  | ok t' => exact congrArg (fun m => StateT.run m t') ok

/-- **A sink on a file tree writes its files in the two stages.** -/
theorem run_onDisk_write (t : FileTree) (base : String) (file : File) :
    ((Sink.onDisk FileTree.disk base).write file).run t =
      t.writeFile (Sink.resolve base file.path) file.content := by
  rw [FileTree.writeFile, FileTree.makeParent, Sink.onDisk]
  dsimp only
  cases Path.parent? (Sink.resolve base file.path) with
  | none => exact run_write_bind t rfl fun _ => rfl
  | some directory =>
    have made : (FileTree.disk.makeDirs directory).run t = t.makeDirs directory := rfl
    dsimp only
    rw [StateT.run_bind, made]
    rcases t.makeDirs directory with ⟨failure | ⟨⟩, t₁⟩
    · rfl
    · exact run_write_bind t₁ rfl fun _ => rfl

/-! ## What changes -/

namespace FileTree

variable {t t' t₁ : FileTree} {target text : String} {l : Location}

/-- A directory was made on the way to a target: nothing was there, and a prefix of the target's
directory leads there. -/
def MadeFor (t t' : FileTree) (target : String) (l : Location) : Prop :=
  t.node? l = none ∧ t'.node? l = some .directory ∧
    ∃ directory, Path.parent? target = some directory ∧
      ∃ front, Path.IsPrefix front directory ∧ t'.Denotes front l

theorem MadeFor.mono (h : t.MadeFor t₁ target l) (grows : t₁.Grows t') : t.MadeFor t' target l := by
  obtain ⟨none, made, directory, parent, front, isPrefix, denotes⟩ := h
  exact ⟨none, grows.directory l made, directory, parent, front, isPrefix, grows.walk denotes⟩

theorem makeParent_of_parent? {directory : String} (h : Path.parent? target = some directory)
    (t : FileTree) : (t.makeParent target).2 = (t.makeDirs directory).2 := by
  simp only [makeParent, h]
  rcases t.makeDirs directory with ⟨failure | ⟨⟩, t₁⟩ <;> rfl

theorem makeParent_of_orphan (h : Path.parent? target = none) (t : FileTree) :
    t.makeParent target = (.ok (), t) := by
  simp only [makeParent, h]

theorem addsDirectories_makeParent (t : FileTree) (target : String) :
    t.AddsDirectories (t.makeParent target).2 := by
  cases h : Path.parent? target with
  | none =>
    rw [makeParent_of_orphan h]
    exact .refl t
  | some directory =>
    rw [makeParent_of_parent? h]
    exact t.addsDirectories_makeDirs directory

/-- The first stage makes directories on the way to the target, and nothing else. -/
theorem node?_makeParent (t : FileTree) (target : String) (l : Location) :
    (t.makeParent target).2.node? l = t.node? l ∨
      t.MadeFor (t.makeParent target).2 target l := by
  rcases (addsDirectories_makeParent t target).node l with same | ⟨none, made⟩
  · exact .inl same
  refine .inr ⟨none, made, ?_⟩
  cases h : Path.parent? target with
  | none =>
    rw [makeParent_of_orphan h, none] at made
    cases made
  | some directory =>
    rw [makeParent_of_parent? h] at made ⊢
    exact ⟨directory, rfl, exists_isPrefix_of_makeDirs (by simp [none, made])⟩

end FileTree

/-- **A write touches its target and the way to it.** If it succeeds, the target leads to a file
with the text that was written. Everywhere else, and if it fails everywhere, there is what was there
before, or there was nothing and a directory was made on the way to the target. -/
theorem onDisk_write_touches (t : FileTree) (base : String) (file : File) :
    let target := Sink.resolve base file.path
    let done := ((Sink.onDisk FileTree.disk base).write file).run t
    done.2.current = t.current ∧
      (done.1 = .ok () → ∃ l, done.2.Denotes target l ∧
        done.2.fileAt? l = some file.content.toUTF8 ∧
        ∀ m, m ≠ l → done.2.node? m = t.node? m ∨ t.MadeFor done.2 target m) ∧
      ∀ e, done.1 = .error e → ∀ m, done.2.node? m = t.node? m ∨ t.MadeFor done.2 target m := by
  rw [run_onDisk_write]
  intro target done
  have adds := t.addsDirectories_makeParent target
  have made := t.node?_makeParent target
  rcases t.writeFile_cases target file.content with ⟨e, h⟩ | ⟨t', -, written, h⟩
  · have failed : done = (.error e, (t.makeParent target).2) := h
    simp only [failed, reduceCtorEq, false_implies, true_and]
    exact ⟨adds.current, fun _ _ => made⟩
  · obtain ⟨l, walk, -, writes⟩ := FileTree.exists_writes_of_write written
    have succeeded : done = (.ok (), t') := h
    simp only [succeeded, reduceCtorEq, false_implies, implies_true, and_true, true_implies]
    refine ⟨writes.current.trans adds.current, l, writes.grows.walk walk,
      (writes.fileAt? l).trans (if_pos rfl), fun m hm => ?_⟩
    rw [writes.node, if_neg hm]
    exact (made m).imp_right fun h => h.mono writes.grows

/-- A directory that was made stays when a file is found in the place of the next one. -/
example :
    let t : FileTree := ⟨[("f", .file "x".toUTF8)], []⟩
    let done := ((Sink.onDisk FileTree.disk "").write ⟨"new/../f/d/build.gradle", "y"⟩).run t
    done.1 = .error (.makeFailed "new/../f/d" .alreadyExists) ∧ t.find? ["new"] = none ∧
      (done.2.find? ["new"]).isSome = true := by
  decide +kernel

end GradleScript
