import GradleScript.Cli.Run
import GradleScript.Proofs.Generate.OnDisk

/-!
# The scripts that are reported

When scripts have been written, the path of each is printed. At that path there is a script, but not
always the one of the same blueprint: of several blueprints whose paths lead to one place, the last
one has its script there.

## Main results

* `exists_last_of_exists`: the last of the items with a property
* `run_generateAll_of_writeScripts`: what is printed after which run
* `read_reported`: what can be read at a printed path
-/

namespace GradleScript

variable {t t' : FileTree} {output remarks : String} {blueprints : List Blueprint}

/-- Of the items that have a property, one is the last. -/
theorem exists_last_of_exists {α : Type} {P : α → Prop} {as : List α} (h : ∃ a ∈ as, P a) :
    ∃ front a back, as = front ++ a :: back ∧ P a ∧ ∀ b ∈ back, ¬ P b := by
  induction as with
  | nil => simp at h
  | cons a rest ih =>
    by_cases later : ∃ b ∈ rest, P b
    · obtain ⟨front, b, back, rfl, hb, last⟩ := ih later
      exact ⟨a :: front, b, back, rfl, hb, last⟩
    · simp only [List.mem_cons, exists_eq_or_imp] at h
      exact ⟨[], a, rest, rfl, h.resolve_right later, fun b hb hP => later ⟨b, hb, hP⟩⟩

/-- The path that is printed is the one that is written to. -/
theorem resolve_eq_join (base path : String) : Sink.resolve base path = Path.join base path := by
  rw [Sink.resolve]
  split
  · next absolute => exact (Path.isAbsolute_join_of_isAbsolute absolute).symm
  · rfl

/-- The command succeeds if the run does, and then prints the paths. -/
theorem run_generateAll_of_writeScripts {outcome : Outcome}
    (h : (writeScripts FileTree.disk blueprints output remarks).run t = (outcome, t'))
    (success : outcome.exitCode = 0) : outcome.output = generatedText output blueprints ∧
      (generateAll (Sink.onDisk FileTree.disk output) blueprints).run t = (.ok (), t') := by
  rw [writeScripts] at h
  obtain ⟨r, t₁, hr, h⟩ := exists_of_run_bind h
  cases r with
  | error e =>
    cases h
    exact absurd success Nat.one_ne_zero
  | ok _ =>
    cases h
    exact ⟨rfl, hr⟩

/-- **What is reported is there, as the last blueprint has it.** When writing succeeds, the path
that is printed for a blueprint leads to a file with the script of a blueprint of the list, the last
one whose printed path leads to the same place. -/
theorem read_reported {outcome : Outcome}
    (h : (writeScripts FileTree.disk blueprints output remarks).run t = (outcome, t'))
    (success : outcome.exitCode = 0) : outcome.output = generatedText output blueprints ∧
      ∀ b ∈ blueprints, ∃ l front c back, blueprints = front ++ c :: back ∧
        t'.Denotes (Path.join output b.scriptPath) l ∧
        t'.Denotes (Path.join output c.scriptPath) l ∧
        (∀ d ∈ back, ¬ t'.Denotes (Path.join output d.scriptPath) l) ∧
        t'.read (Path.join output b.scriptPath) = .ok (c.render .standard) := by
  obtain ⟨printed, hr⟩ := run_generateAll_of_writeScripts h success
  refine ⟨printed, fun b hb => ?_⟩
  obtain ⟨noSlash, l, denotes⟩ := exists_denotes_of_generateAll hr b hb
  have split : ∃ front c back, blueprints = front ++ c :: back ∧
      t'.Denotes (Sink.resolve output c.scriptPath) l ∧
      ∀ d ∈ back, ¬ t'.Denotes (Sink.resolve output d.scriptPath) l :=
    exists_last_of_exists ⟨b, hb, denotes⟩
  obtain ⟨front, c, back, e, hc, last⟩ := split
  -- the script at the place is that of the last blueprint, whichever leads there
  rw [e] at hr
  have content := fileAt?_of_denotes hr hc last
  simp only [resolve_eq_join] at noSlash denotes hc last
  exact ⟨l, front, c, back, e, denotes, hc, last, FileTree.read_eq_ok denotes content noSlash⟩

/-- What is left behind when the scripts of three modules are written below a directory. -/
def threeModulesOutcome : Outcome := .success (generatedText "out" threeModules) ""

theorem read_reported_threeModules :
    (writeScripts FileTree.disk threeModules "out" "").run usedTree =
      (threeModulesOutcome, usedTreeAfter) ∧
    threeModulesOutcome.exitCode = 0 ∧
    usedTreeAfter.read (Path.join "out" (Blueprint.new "a" "app" 3 1 2).scriptPath) =
      .ok ((Blueprint.new "b" "lib/..//app/." 3 1 1).render .standard) := by
  have outcome : ((writeScripts FileTree.disk threeModules "out" "").run usedTree).1 =
      threeModulesOutcome := by
    decide +kernel
  have success :
      ((writeScripts FileTree.disk threeModules "out" "").run usedTree).1.exitCode = 0 := by
    rw [outcome]
    rfl
  obtain ⟨-, hr⟩ := run_generateAll_of_writeScripts (Prod.eta _).symm success
  have tree : ((writeScripts FileTree.disk threeModules "out" "").run usedTree).2 =
      usedTreeAfter := by
    rw [usedTreeAfter, hr]
  have h : (writeScripts FileTree.disk threeModules "out" "").run usedTree =
      (threeModulesOutcome, usedTreeAfter) := by
    rw [← outcome, ← tree, Prod.eta]
  refine ⟨h, rfl, ?_⟩
  obtain ⟨-, reads⟩ := read_reported h rfl
  obtain ⟨l, front, c, back, e, denotes, hc, last, read⟩ :=
    reads (.new "a" "app" 3 1 2) List.mem_cons_self
  have place : usedTreeAfter.Denotes (Path.join "out" (Blueprint.new "a" "app" 3 1 2).scriptPath)
      ["w", "out", "app", "build.gradle"] := by
    decide +kernel
  obtain rfl := place.unique denotes
  rw [read]
  match front, e with
  | [], e =>
    obtain ⟨-, rfl⟩ := List.cons.inj e
    exact absurd (by decide +kernel) (last (.new "b" "lib/..//app/." 3 1 1) List.mem_cons_self)
  | [_], e =>
    obtain ⟨-, e⟩ := List.cons.inj e
    rw [(List.cons.inj e).1]
  | [_, _], e =>
    obtain ⟨-, e⟩ := List.cons.inj e
    obtain ⟨-, e⟩ := List.cons.inj e
    obtain ⟨rfl, -⟩ := List.cons.inj e
    exact absurd hc (by decide +kernel)
  | _ :: _ :: _ :: front, e => simp [threeModules] at e

/-- The text of a blueprint, by its package, its path and its target level. -/
def moduleText (package path target : String) : String :=
  "[module]\npackage = \"" ++ package ++ "\"\npath = \"" ++ path ++
    "\"\n[sdk]\ncompile = 3\nmin = 1\ntarget = " ++ target ++ "\n"

/-- The first of two modules at one place. -/
def firstOwner : Blueprint := .new "a" "m" 3 1 1

/-- The second, which spells the place differently. -/
def secondOwner : Blueprint := .new "b" "./m" 3 1 2

/-- A tree with the blueprints of the two modules. -/
def ownersTree : FileTree where
  root := [("a.toml", .file (moduleText "a" "m" "1").toUTF8),
    ("b.toml", .file (moduleText "b" "./m" "2").toUTF8)]
  current := []

/-- The script of the first module is reported, but it is lost. -/
theorem script_lost_of_owners :
    Blueprint.load ⟨"a.toml", moduleText "a" "m" "1"⟩ = .ok firstOwner ∧
    Blueprint.load ⟨"b.toml", moduleText "b" "./m" "2"⟩ = .ok secondOwner ∧
    ((writeScripts FileTree.disk [firstOwner, secondOwner] "." "").run ownersTree).1.exitCode = 0 ∧
    ((writeScripts FileTree.disk [firstOwner, secondOwner] "." "").run ownersTree).2.read
      (Path.join "." firstOwner.scriptPath) ≠ .ok (firstOwner.render .standard) := by
  have success : ((writeScripts FileTree.disk [firstOwner, secondOwner] "." "").run
      ownersTree).1.exitCode = 0 := by
    decide +kernel
  refine ⟨by decide +kernel, by decide +kernel, success, ?_⟩
  have walk : ((writeScripts FileTree.disk [firstOwner, secondOwner] "." "").run
      ownersTree).2.walk (Path.join "." firstOwner.scriptPath) = .ok ["m", "build.gradle"] := by
    decide +kernel
  have denotes : ((writeScripts FileTree.disk [firstOwner, secondOwner] "." "").run
      ownersTree).2.Denotes (Sink.resolve "." secondOwner.scriptPath) ["m", "build.gradle"] := by
    decide +kernel
  obtain ⟨-, hr⟩ := run_generateAll_of_writeScripts (Prod.eta _).symm success
  generalize ((writeScripts FileTree.disk [firstOwner, secondOwner] "." "").run ownersTree).2 =
    after at *
  rw [← List.singleton_append] at hr
  have content := fileAt?_of_denotes hr denotes (List.forall_mem_nil _)
  rw [FileTree.read_eq_ok walk content (by decide +kernel)]
  decide +kernel

end GradleScript
