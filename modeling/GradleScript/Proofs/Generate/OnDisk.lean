import GradleScript.Proofs.Generate.OneFile

/-!
# Scripts that are written to a file tree

Scripts are written one after the other, and a later one may go to the place of an earlier one. So
after a run that succeeds each place that the scripts went to holds the last script that went there,
and everything else holds what it held before. That can be read off the preview of the same
blueprints, since the preview keeps all scripts in their order.

## Main results

* `previewAll_eq_map`: what the preview holds
* `exists_writes_of_onDisk`: what writing one file to a disk does
* `fileAt?_of_not_denotes`, `fileAt?_of_denotes`: what a location holds after a run
* `preview_agrees_with_run`: the preview and the run agree
-/

namespace GradleScript

variable {t t' : FileTree} {base : String}

/-- What is run in two stages ends with the second. -/
theorem exists_of_run_bind {σ α β : Type} {x : StateM σ α} {f : α → StateM σ β} {s s' : σ} {b : β}
    (h : (x >>= f).run s = (b, s')) :
    ∃ a s₁, x.run s = (a, s₁) ∧ (f a).run s₁ = (b, s') :=
  ⟨_, _, rfl, h⟩

/-! ## The preview -/

theorem Blueprint.content_preview (b : Blueprint) (indent : Indent) :
    (b.preview indent).content = b.render indent := rfl

theorem run_generateAll_memory (blueprints : List Blueprint) (files : List File) :
    (generateAll (Sink.memory Empty) blueprints).run files =
      (.ok (), files ++ blueprints.map (·.preview .standard)) := by
  induction blueprints generalizing files with
  | nil => exact congrArg (Prod.mk (Except.ok ())) (List.append_nil files).symm
  | cons b rest ih =>
    rw [generateAll, StateT.run_bind]
    refine (ih (files ++ [b.preview .standard])).trans ?_
    rw [List.map_cons, List.append_assoc]
    rfl

/-- The preview holds the scripts of the blueprints in their order. -/
theorem previewAll_eq_map (blueprints : List Blueprint) :
    previewAll blueprints = blueprints.map (·.preview .standard) := by
  rw [previewAll, run_generateAll_memory]
  rfl

/-! ## One file -/

/-- A file is written after the directories above it have been made. -/
theorem exists_write_of_onDisk {file : File}
    (h : ((Sink.onDisk FileTree.disk base).write file).run t = (.ok (), t')) :
    ∃ t₁ : FileTree, t.AddsDirectories t₁ ∧
      t₁.write (Sink.resolve base file.path) file.content = .ok t' := by
  rw [run_onDisk_write] at h
  rcases t.writeFile_cases (Sink.resolve base file.path) file.content with
    ⟨e, failed⟩ | ⟨t₂, -, written, succeeded⟩
  · rw [failed] at h
    cases h
  · rw [succeeded] at h
    cases h
    exact ⟨_, t.addsDirectories_makeParent _, written⟩

/-- A file that is written is where its path leads, and no other file changes. -/
theorem exists_writes_of_onDisk {file : File}
    (h : ((Sink.onDisk FileTree.disk base).write file).run t = (.ok (), t')) :
    ∃ l, t'.Denotes (Sink.resolve base file.path) l ∧
      FileTree.endsWithSlash (Sink.resolve base file.path) = false ∧ t.Grows t' ∧
      ∀ m, t'.fileAt? m = if m = l then some file.content.toUTF8 else t.fileAt? m := by
  obtain ⟨t₁, adds, hw⟩ := exists_write_of_onDisk h
  obtain ⟨l, walk, noSlash, writes⟩ := FileTree.exists_writes_of_write hw
  refine ⟨l, writes.grows.walk walk, noSlash, adds.grows.trans writes.grows, fun m => ?_⟩
  rw [writes.fileAt?, adds.fileAt?]

/-! ## A run -/

/-- A run that succeeds wrote the first script, and then the others. -/
theorem run_generateAll_cons {b : Blueprint} {rest : List Blueprint}
    (h : (generateAll (Sink.onDisk FileTree.disk base) (b :: rest)).run t = (.ok (), t')) :
    ∃ t₁, ((Sink.onDisk FileTree.disk base).write (b.preview .standard)).run t = (.ok (), t₁) ∧
      (generateAll (Sink.onDisk FileTree.disk base) rest).run t₁ = (.ok (), t') := by
  rw [generateAll] at h
  obtain ⟨r, t₁, hw, h⟩ := exists_of_run_bind h
  cases r with
  | error e => cases h
  | ok _ => exact ⟨t₁, hw, h⟩

theorem grows_of_generateAll {blueprints : List Blueprint}
    (h : (generateAll (Sink.onDisk FileTree.disk base) blueprints).run t = (.ok (), t')) :
    t.Grows t' := by
  induction blueprints generalizing t with
  | nil =>
    cases h
    exact .refl _
  | cons b rest ih =>
    obtain ⟨t₁, hw, hr⟩ := run_generateAll_cons h
    obtain ⟨l, -, -, grows, -⟩ := exists_writes_of_onDisk hw
    exact grows.trans (ih hr)

/-- Each script is at a location of the tree. -/
theorem exists_denotes_of_generateAll {blueprints : List Blueprint}
    (h : (generateAll (Sink.onDisk FileTree.disk base) blueprints).run t = (.ok (), t')) :
    ∀ b ∈ blueprints, FileTree.endsWithSlash (Sink.resolve base b.scriptPath) = false ∧
      ∃ l, t'.Denotes (Sink.resolve base b.scriptPath) l := by
  induction blueprints generalizing t with
  | nil => simp
  | cons b rest ih =>
    obtain ⟨t₁, hw, hr⟩ := run_generateAll_cons h
    obtain ⟨l, denotes, noSlash, -⟩ := exists_writes_of_onDisk hw
    exact List.forall_mem_cons.2
      ⟨⟨noSlash, l, (grows_of_generateAll hr).walk denotes⟩, ih hr⟩

/-- A location that no script goes to holds what it held. -/
theorem fileAt?_of_not_denotes {blueprints : List Blueprint}
    (h : (generateAll (Sink.onDisk FileTree.disk base) blueprints).run t = (.ok (), t'))
    {l : Location} (none : ∀ b ∈ blueprints, ¬ t'.Denotes (Sink.resolve base b.scriptPath) l) :
    t'.fileAt? l = t.fileAt? l := by
  induction blueprints generalizing t with
  | nil =>
    cases h
    rfl
  | cons b rest ih =>
    rw [List.forall_mem_cons] at none
    obtain ⟨t₁, hw, hr⟩ := run_generateAll_cons h
    obtain ⟨m, denotes, -, -, written⟩ := exists_writes_of_onDisk hw
    -- the first script went somewhere else, and is still there
    have ne : l ≠ m := fun e => none.1 (e ▸ (grows_of_generateAll hr).walk denotes)
    rw [ih hr none.2, written, if_neg ne]

/-- A location that a script goes to, and none of the later ones, holds that script. -/
theorem fileAt?_of_denotes {front back : List Blueprint} {b : Blueprint}
    (h : (generateAll (Sink.onDisk FileTree.disk base) (front ++ b :: back)).run t = (.ok (), t'))
    {l : Location} (denotes : t'.Denotes (Sink.resolve base b.scriptPath) l)
    (none : ∀ c ∈ back, ¬ t'.Denotes (Sink.resolve base c.scriptPath) l) :
    t'.fileAt? l = some (b.render .standard).toUTF8 := by
  -- what was written before makes no difference, so the tree is any
  induction front generalizing t with
  | nil =>
    obtain ⟨t₁, hw, hr⟩ := run_generateAll_cons h
    obtain ⟨m, first, -, -, written⟩ := exists_writes_of_onDisk hw
    -- the path leads at the end where it led when the script was written
    have e : l = m := denotes.unique ((grows_of_generateAll hr).walk first)
    rw [fileAt?_of_not_denotes hr none, written, if_pos e]
    rfl
  | cons c front ih =>
    obtain ⟨t₁, -, hr⟩ := run_generateAll_cons h
    exact ih hr

/-- **The preview and the run agree.** After a run that succeeds, each file of the preview is at a
location of the tree, a location holds the last file of the preview that goes there, and all other
locations hold the files that they held before. -/
theorem preview_agrees_with_run {blueprints : List Blueprint}
    (h : (generateAll (Sink.onDisk FileTree.disk base) blueprints).run t = (.ok (), t')) :
    (∀ f ∈ previewAll blueprints, ∃ l, t'.Denotes (Sink.resolve base f.path) l) ∧
    (∀ front f back l, previewAll blueprints = front ++ f :: back →
      t'.Denotes (Sink.resolve base f.path) l →
      (∀ g ∈ back, ¬ t'.Denotes (Sink.resolve base g.path) l) →
      t'.fileAt? l = some f.content.toUTF8) ∧
    ∀ l, (∀ f ∈ previewAll blueprints, ¬ t'.Denotes (Sink.resolve base f.path) l) →
      t'.fileAt? l = t.fileAt? l := by
  rw [previewAll_eq_map]
  refine ⟨?_, ?_, ?_⟩
  · exact List.forall_mem_map.2 fun b hb => (exists_denotes_of_generateAll h b hb).2
  · intro front f back l e denotes none
    obtain ⟨before, others, rfl, -, e⟩ := List.map_eq_append_iff.1 e
    obtain ⟨b, after, rfl, rfl, rfl⟩ := List.map_eq_cons_iff.1 e
    rw [Blueprint.content_preview]
    exact fileAt?_of_denotes h denotes fun c hc =>
      none (c.preview .standard) (List.mem_map_of_mem hc)
  · intro l none
    exact fileAt?_of_not_denotes h fun b hb => none (b.preview .standard) (List.mem_map_of_mem hb)

/-- A tree with a script from an earlier run, and with another file. -/
def usedTree : FileTree where
  root := [("w", .directory [
    ("out", .directory [("app", .directory [("build.gradle", .file "old".toUTF8)])]),
    ("notes", .file "kept".toUTF8)])]
  current := ["w"]

/-- Three modules. The second has the place of the first, the third is not below the base. -/
def threeModules : List Blueprint :=
  [.new "a" "app" 3 1 2, .new "b" "lib/..//app/." 3 1 1, .new "c" "/srv" 3 1 2]

/-- The tree after the scripts of the modules have been written. -/
def usedTreeAfter : FileTree :=
  ((generateAll (Sink.onDisk FileTree.disk "out") threeModules).run usedTree).2

theorem preview_agrees_with_run_threeModules :
    (generateAll (Sink.onDisk FileTree.disk "out") threeModules).run usedTree =
      (.ok (), usedTreeAfter) ∧
    usedTreeAfter.fileAt? ["w", "out", "app", "build.gradle"] =
      some ((Blueprint.new "b" "lib/..//app/." 3 1 1).render .standard).toUTF8 ∧
    usedTreeAfter.fileAt? ["w", "notes"] = usedTree.fileAt? ["w", "notes"] := by
  have succeeds : ((generateAll (Sink.onDisk FileTree.disk "out") threeModules).run usedTree).1 =
      .ok () := by
    decide +kernel
  have h : (generateAll (Sink.onDisk FileTree.disk "out") threeModules).run usedTree =
      (.ok (), usedTreeAfter) := by
    rw [usedTreeAfter, ← succeeds, Prod.eta]
  obtain ⟨-, last, others⟩ := preview_agrees_with_run h
  refine ⟨h, ?_, others _ ?_⟩
  · let file (b : Blueprint) : File := b.preview .standard
    have found := last [file (.new "a" "app" 3 1 2)] (file (.new "b" "lib/..//app/." 3 1 1))
      [file (.new "c" "/srv" 3 1 2)] ["w", "out", "app", "build.gradle"]
      (previewAll_eq_map threeModules) (by decide +kernel) (by decide +kernel)
    exact found
  · decide +kernel

end GradleScript
