import GradleScript.Proofs.FileTree.Overwriting
import GradleScript.Proofs.Generate.Refusal

/-!
# Generating again

Scripts that have been written can be written again. The directories of their places are there and
the places hold files, so that nothing stands in the way and no file or directory is added. A script
may be overwritten in the middle of the run by another one that goes to the same place, but the last
one that goes there is the one that is there already.

## Main definitions

* `WrittenAt`: a script is at a place of a tree, and can be written there again

## Main results

* `FileTree.writeFile_again`: a file that has been written can be written again
* `run_generateAll_set`: what is at a place that a script goes to makes no difference to a run
* `generateAll_again`: a run that has succeeded succeeds again and changes nothing
-/

namespace GradleScript

/-! ## One file -/

namespace FileTree

variable {t t' t₁ : FileTree} {target text : String}

theorem makeParent_again (h : (t.makeParent target).1 = .ok ())
    (grows : (t.makeParent target).2.Grows t') : t'.makeParent target = (.ok (), t') := by
  cases hp : Path.parent? target with
  | none => exact makeParent_of_orphan hp t'
  | some directory =>
    simp only [makeParent, hp] at h grows ⊢
    rcases hm : t.makeDirs directory with ⟨failure | ⟨⟩, t₁⟩ <;> rw [hm] at h grows
    · cases h
    · rw [makeDirs_again hm grows]

/-- **A file that has been written can be written again**: its directory is not made again, and the
text takes the place of what is there now. -/
theorem writeFile_again (h : t.writeFile target text = (.ok (), t₁)) (keeps : t₁.Keeps t') :
    ∃ l, t₁.Denotes target l ∧ t₁.fileAt? l = some text.toUTF8 ∧
      t'.writeFile target text = (.ok (), t'.set l (.file text.toUTF8)) := by
  rcases t.writeFile_cases target text with ⟨e, failed⟩ | ⟨t₂, made, written, succeeded⟩
  · rw [failed] at h
    cases h
  · rw [succeeded] at h
    cases h
    obtain ⟨_, -, -, writes⟩ := exists_writes_of_write written
    obtain ⟨l, walk, there, again⟩ := write_again written keeps
    refine ⟨l, walk, there, ?_⟩
    rw [writeFile, makeParent_again made (writes.grows.trans keeps.toGrows)]
    dsimp only
    rw [writeTarget, again]

end FileTree

/-! ## A run -/

variable {t t' s : FileTree} {base : String} {b : Blueprint} {l : Location}

/-- The script of a blueprint is at a place of a tree, or another file is, and it can be written
there again, whatever else is written in the meantime. -/
structure WrittenAt (t : FileTree) (base : String) (b : Blueprint) (l : Location) : Prop where
  denotes : t.Denotes (Sink.resolve base b.scriptPath) l
  file : (t.fileAt? l).isSome = true
  again : ∀ s, t.Keeps s →
    ((Sink.onDisk FileTree.disk base).write (b.preview .standard)).run s =
      (.ok (), s.set l (.file (b.render .standard).toUTF8))

theorem WrittenAt.mono (h : WrittenAt t base b l) (keeps : t.Keeps t') : WrittenAt t' base b l :=
  ⟨keeps.walk h.denotes, keeps.file l h.file, fun s hs => h.again s (keeps.trans hs)⟩

theorem exists_writtenAt_of_onDisk
    (h : ((Sink.onDisk FileTree.disk base).write (b.preview .standard)).run t = (.ok (), t')) :
    ∃ l, WrittenAt t' base b l := by
  rw [run_onDisk_write] at h
  obtain ⟨l, denotes, there, -⟩ := FileTree.writeFile_again h (.refl t')
  refine ⟨l, denotes, by rw [there]; rfl, fun s keeps => ?_⟩
  obtain ⟨m, denotes', -, again⟩ := FileTree.writeFile_again h keeps
  rw [run_onDisk_write, denotes.unique denotes']
  exact again

theorem keeps_of_onDisk {file : File}
    (h : ((Sink.onDisk FileTree.disk base).write file).run t = (.ok (), t')) : t.Keeps t' := by
  obtain ⟨t₁, adds, hw⟩ := exists_write_of_onDisk h
  obtain ⟨l, -, -, writes⟩ := FileTree.exists_writes_of_write hw
  exact adds.keeps.trans writes.keeps

theorem keeps_of_generateAll {blueprints : List Blueprint}
    (h : (generateAll (Sink.onDisk FileTree.disk base) blueprints).run t = (.ok (), t')) :
    t.Keeps t' := by
  induction blueprints generalizing t with
  | nil =>
    cases h
    exact .refl _
  | cons b rest ih =>
    obtain ⟨t₁, hw, hr⟩ := run_generateAll_cons h
    exact (keeps_of_onDisk hw).trans (ih hr)

/-- After a run that succeeds all its scripts can be written again. -/
theorem exists_writtenAt_of_generateAll {blueprints : List Blueprint}
    (h : (generateAll (Sink.onDisk FileTree.disk base) blueprints).run t = (.ok (), t')) :
    ∀ b ∈ blueprints, ∃ l, WrittenAt t' base b l := by
  induction blueprints generalizing t with
  | nil => simp
  | cons b rest ih =>
    obtain ⟨t₁, hw, hr⟩ := run_generateAll_cons h
    obtain ⟨l, written⟩ := exists_writtenAt_of_onDisk hw
    exact List.forall_mem_cons.2 ⟨⟨l, written.mono (keeps_of_generateAll hr)⟩, ih hr⟩

/-- What is at a place that one of the scripts goes to makes no difference to a run: it is
overwritten, and the other scripts go elsewhere. -/
theorem run_generateAll_set {later : List Blueprint}
    (written : ∀ b ∈ later, ∃ l, WrittenAt t base b l) (keeps : t.Keeps s)
    (file : (t.fileAt? l).isSome = true)
    (goes : ∃ b ∈ later, t.Denotes (Sink.resolve base b.scriptPath) l) (content : ByteArray) :
    (generateAll (Sink.onDisk FileTree.disk base) later).run (s.set l (.file content)) =
      (generateAll (Sink.onDisk FileTree.disk base) later).run s := by
  induction later generalizing s with
  | nil => simp at goes
  | cons b rest ih =>
    rw [List.forall_mem_cons] at written
    obtain ⟨⟨m, first⟩, others⟩ := written
    obtain ⟨c, hl⟩ := Option.isSome_iff_exists.1 (keeps.file l file)
    obtain ⟨d, hm⟩ := Option.isSome_iff_exists.1 (keeps.file m first.file)
    have overwritten := FileTree.writes_set_of_fileAt? hl content
    rw [run_generateAll_of_taken (first.again _ (keeps.trans overwritten.keeps)),
      run_generateAll_of_taken (first.again _ keeps)]
    by_cases here : l = m
    · subst here
      rw [FileTree.set_set (FileTree.ne_nil_of_fileAt? hl)]
    · -- a later one does, so the first one may as well be written before
      have goes : ∃ b ∈ rest, t.Denotes (Sink.resolve base b.scriptPath) l := by
        simp only [List.mem_cons, exists_eq_or_imp] at goes
        exact goes.resolve_left fun h => here (h.unique first.denotes)
      rw [FileTree.set_comm hl hm here]
      exact ih others (keeps.trans (FileTree.writes_set_of_fileAt? hm _).keeps) goes

/-- The last scripts of a run that has succeeded can be written again, and nothing changes. -/
theorem run_generateAll_of_append (front : List Blueprint) {later : List Blueprint}
    (h : (generateAll (Sink.onDisk FileTree.disk base) (front ++ later)).run t = (.ok (), t')) :
    (generateAll (Sink.onDisk FileTree.disk base) later).run t' = (.ok (), t') := by
  induction later generalizing front with
  | nil => rfl
  | cons b rest ih =>
    have written := exists_writtenAt_of_generateAll h
    obtain ⟨l, first⟩ := written b (by simp)
    have rest_again : (generateAll (Sink.onDisk FileTree.disk base) rest).run t' = (.ok (), t') :=
      ih (front ++ [b]) (by simpa using h)
    rw [run_generateAll_of_taken (first.again t' (.refl t'))]
    by_cases goes : ∃ c ∈ rest, t'.Denotes (Sink.resolve base c.scriptPath) l
    · -- the script is overwritten before the run is over, as it was the first time
      rw [run_generateAll_set (fun c hc => written c (by simp [hc])) (.refl t') first.file goes]
      exact rest_again
    · have last := fileAt?_of_denotes h first.denotes fun c hc hl => goes ⟨c, hc, hl⟩
      rw [FileTree.set_of_fileAt? last]
      exact rest_again

/-- **A run that has succeeded succeeds again and changes nothing.** The tree is the same in all its
files and directories, also if several scripts go to one place. -/
theorem generateAll_again {blueprints : List Blueprint}
    (h : (generateAll (Sink.onDisk FileTree.disk base) blueprints).run t = (.ok (), t')) :
    (generateAll (Sink.onDisk FileTree.disk base) blueprints).run t' = (.ok (), t') :=
  run_generateAll_of_append [] h

/-- Two of the three modules share a place, and one is not below the base. -/
theorem generateAll_again_threeModules :
    (generateAll (Sink.onDisk FileTree.disk "out") threeModules).run usedTree =
        (.ok (), usedTreeAfter) ∧
      (generateAll (Sink.onDisk FileTree.disk "out") threeModules).run usedTreeAfter =
        (.ok (), usedTreeAfter) := by
  have succeeds : ((generateAll (Sink.onDisk FileTree.disk "out") threeModules).run usedTree).1 =
      .ok () := by
    decide +kernel
  have h : (generateAll (Sink.onDisk FileTree.disk "out") threeModules).run usedTree =
      (.ok (), usedTreeAfter) := by
    rw [usedTreeAfter, ← succeeds, Prod.eta]
  exact ⟨h, generateAll_again h⟩

end GradleScript
