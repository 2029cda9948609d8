import GradleScript.Cli.Run
import GradleScript.FileTree
import GradleScript.Proofs.Except
import GradleScript.Proofs.Lint.Repetition
import GradleScript.Proofs.Script.Texts
import Mathlib.Algebra.Ring.Nat

/-!
# What lets scripts be generated

Checking blueprints and generating their scripts depend on the same condition: every file holds a
blueprint that can be loaded, and no blueprint has two flavors with the same name. If that fails for
one file, wherever it stands in the list, nothing is written. All this holds of any disk on which
reading changes nothing.

## Main definitions

* `Disk.ReadsOnly`: reading changes nothing
* `Disk.Holds`: a file holds a blueprint
* `Disk.Passes`: the condition on the files of a command

## Main results

* `run_loadAll`: what is loaded
* `exitCode_checkOutcome`, `exitCode_generateLoaded_dryRun`: when the commands succeed, by the
  errors of what is loaded
* `Command.run_of_loaded`: the commands before and after everything is loaded
* `Command.succeeds_iff_passes`: when the commands succeed, by the condition
-/

namespace GradleScript

variable {σ : Type}

/-- Reading a file changes nothing. -/
def Disk.ReadsOnly (disk : Disk (StateM σ)) : Prop :=
  ∀ path s, ((disk.read path).run s).2 = s

/-- The file at a path holds a blueprint. -/
def Disk.Holds (disk : Disk (StateM σ)) (s : σ) (path : String) (b : Blueprint) : Prop :=
  ∃ text, ((disk.read path).run s).1 = .ok text ∧ Blueprint.load ⟨path, text⟩ = .ok b

/-- Every file holds a blueprint of which no two flavors have the same name. -/
def Disk.Passes (disk : Disk (StateM σ)) (s : σ) (paths : List String) : Prop :=
  ∀ path ∈ paths, ∃ b, disk.Holds s path b ∧ b.flavorNames.Nodup

theorem FileTree.readsOnly_disk : FileTree.disk.ReadsOnly := fun _ _ => rfl

variable {disk : Disk (StateM σ)} {s : σ}

theorem Disk.Holds.unique {path : String} {b c : Blueprint} (hb : disk.Holds s path b)
    (hc : disk.Holds s path c) : b = c := by
  obtain ⟨text, hr, hb⟩ := hb
  obtain ⟨text', hr', hc⟩ := hc
  obtain rfl := Except.ok.inj (hr.symm.trans hr')
  exact Except.ok.inj (hb.symm.trans hc)

/-! ## Loading -/

/-- A computation that changes nothing only hands its result on. -/
theorem run_bind_of_unchanged {α β : Type} {x : StateM σ α} {f : α → StateM σ β} {a : α}
    (h : x.run s = (a, s)) : (x >>= f).run s = (f a).run s := by
  rw [StateT.run_bind, h]
  rfl

theorem run_loadFile (reads : disk.ReadsOnly) (path : String) :
    ∃ r, (loadFile disk path).run s = (r, s) ∧ ∀ b, r = .ok b ↔ disk.Holds s path b := by
  have read : (disk.read path).run s = (((disk.read path).run s).1, s) :=
    Prod.ext rfl (reads path s)
  unfold Disk.Holds loadFile
  rw [run_bind_of_unchanged read]
  cases ((disk.read path).run s).1 with
  | error failure => exact ⟨_, rfl, by simp⟩
  | ok text => exact ⟨_, rfl, by simp⟩

/-- All files are loaded, or the first that cannot be loaded is the error. -/
theorem run_loadAll (reads : disk.ReadsOnly) (paths : List String) :
    ∃ r, (loadAll disk paths).run s = (r, s) ∧ ∀ loaded, r = .ok loaded ↔
      List.Forall₂ (fun path p => p.1 = path ∧ disk.Holds s path p.2) paths loaded := by
  induction paths with
  | nil => exact ⟨.ok [], rfl, by simp [eq_comm]⟩
  | cons path rest ih =>
    obtain ⟨first, hf, first_iff⟩ := run_loadFile (s := s) reads path
    obtain ⟨others, ho, others_iff⟩ := ih
    rw [loadAll, run_bind_of_unchanged hf]
    cases first with
    | error e =>
      refine ⟨.error e, rfl, fun loaded => iff_of_false (by simp) ?_⟩
      rintro (_ | ⟨⟨-, holds⟩, -⟩)
      exact absurd ((first_iff _).2 holds) (by simp)
    | ok b =>
      rw [run_bind_of_unchanged ho]
      cases others with
      | error e =>
        refine ⟨.error e, rfl, fun loaded => iff_of_false (by simp) ?_⟩
        rintro (_ | ⟨-, holds⟩)
        exact absurd ((others_iff _).2 holds) (by simp)
      | ok loaded =>
        refine ⟨.ok ((path, b) :: loaded), rfl, fun all => ?_⟩
        constructor
        · rintro ⟨⟩
          exact .cons ⟨rfl, (first_iff b).1 rfl⟩ ((others_iff loaded).1 rfl)
        · rintro (_ | ⟨⟨rfl, holds⟩, hs⟩)
          obtain ⟨⟩ := (first_iff _).2 holds
          obtain ⟨⟩ := (others_iff _).2 hs
          rfl

theorem exists_of_forall₂ {paths : List String} {blueprints : List Blueprint}
    (h : List.Forall₂ (disk.Holds s) paths blueprints) :
    ∀ path ∈ paths, ∃ b, disk.Holds s path b := by
  induction h with
  | nil => simp
  | cons head _ ih => exact List.forall_mem_cons.2 ⟨⟨_, head⟩, ih⟩

theorem exists_loaded_of_holds {paths : List String}
    (h : ∀ path ∈ paths, ∃ b, disk.Holds s path b) : ∃ loaded : List (String × Blueprint),
      List.Forall₂ (fun path p => p.1 = path ∧ disk.Holds s path p.2) paths loaded := by
  induction paths with
  | nil => exact ⟨[], .nil⟩
  | cons path rest ih =>
    rw [List.forall_mem_cons] at h
    obtain ⟨b, holds⟩ := h.1
    obtain ⟨loaded, hs⟩ := ih h.2
    exact ⟨(path, b) :: loaded, .cons ⟨rfl, holds⟩ hs⟩

/-! ## Errors -/

/-- How many errors some blueprints have together: for each of them, the names that several of its
flavors have. -/
def repetitionsAll (blueprints : List Blueprint) : Nat :=
  (blueprints.map fun b => repetitions b.flavorNames).sum

theorem repetitionsAll_eq_zero_iff {blueprints : List Blueprint} :
    repetitionsAll blueprints = 0 ↔ ∀ b ∈ blueprints, b.flavorNames.Nodup := by
  induction blueprints with
  | nil => simp [repetitionsAll]
  | cons b rest ih =>
    rw [List.forall_mem_cons, ← ih, ← repetitions_eq_zero_iff]
    exact Nat.add_eq_zero_iff

/-- Files that hold blueprints pass if there are no errors. -/
theorem passes_iff_of_loaded {paths : List String} {loaded : List (String × Blueprint)}
    (h : List.Forall₂ (fun path p => p.1 = path ∧ disk.Holds s path p.2) paths loaded) :
    disk.Passes s paths ↔ repetitionsAll (loaded.map (·.2)) = 0 := by
  rw [repetitionsAll_eq_zero_iff, List.forall_mem_map]
  unfold Disk.Passes
  induction h with
  | nil => simp
  | cons head _ ih =>
    rw [List.forall_mem_cons, List.forall_mem_cons, ih]
    refine and_congr_left fun _ => ⟨?_, fun nodup => ⟨_, head.2, nodup⟩⟩
    rintro ⟨b, holds, nodup⟩
    exact holds.unique head.2 ▸ nodup

/-- What a file holds is what is loaded from it. -/
theorem map_snd_eq_of_holds {paths : List String} {loaded : List (String × Blueprint)}
    {blueprints : List Blueprint}
    (hl : List.Forall₂ (fun path p => p.1 = path ∧ disk.Holds s path p.2) paths loaded)
    (hb : List.Forall₂ (disk.Holds s) paths blueprints) : loaded.map (·.2) = blueprints := by
  have held : List.Forall₂ (disk.Holds s) paths (loaded.map (·.2)) :=
    List.forall₂_map_right_iff.2 (hl.imp fun _ _ h => h.2)
  exact List.right_unique_forall₂' (fun _ _ _ h h' => h.unique h') held hb

theorem foldl_errorCount (loaded : List (String × Blueprint)) (n : Nat) :
    (loaded.map fun p => (p.1, p.2.lint)).foldl (fun n r => n + errorCount r.2) n =
      n + repetitionsAll (loaded.map (·.2)) := by
  induction loaded generalizing n with
  | nil => rfl
  | cons p rest ih =>
    rw [List.map_cons, List.foldl_cons, ih, Blueprint.errorCount_lint]
    simp [repetitionsAll, Nat.add_assoc]

/-- Looking for an error and counting errors give the same verdict. -/
theorem exitCode_checkOutcome (loaded : List (String × Blueprint)) (json : Bool) :
    (checkOutcome loaded json).exitCode = 0 ↔ repetitionsAll (loaded.map (·.2)) = 0 := by
  have errors : ((loaded.map fun p => (p.1, p.2.lint)).any fun r => r.2.any (·.isError)) = true ↔
      ¬ repetitionsAll (loaded.map (·.2)) = 0 := by
    rw [repetitionsAll_eq_zero_iff, List.forall_mem_map, List.any_map, List.any_eq_true]
    simp only [Function.comp_apply, Blueprint.any_isError_lint]
    push Not
    rfl
  rw [checkOutcome]
  dsimp only
  split
  · next h => exact iff_of_false Nat.one_ne_zero (errors.1 h)
  · next h => exact iff_of_true rfl (not_not.1 (mt errors.2 h))

/-- With an error, nothing is written. -/
theorem run_generateLoaded_of_pos (disk : Disk (StateM σ)) {loaded : List (String × Blueprint)}
    (h : 0 < repetitionsAll (loaded.map (·.2))) (output : String) (dryRun : Bool) (s : σ) :
    ∃ remarks, (generateLoaded disk loaded output dryRun).run s =
      (.failure (.lint (repetitionsAll (loaded.map (·.2)))) remarks, s) := by
  rw [generateLoaded]
  rw [foldl_errorCount, Nat.zero_add, if_pos h]
  exact ⟨_, rfl⟩

/-- Without an error, the preview succeeds. -/
theorem run_generateLoaded_dryRun (disk : Disk (StateM σ)) {loaded : List (String × Blueprint)}
    (h : repetitionsAll (loaded.map (·.2)) = 0) (output : String) (s : σ) :
    ∃ text remarks, (generateLoaded disk loaded output true).run s =
      (.success text remarks, s) := by
  rw [generateLoaded]
  rw [foldl_errorCount, Nat.zero_add, h, if_neg (Nat.lt_irrefl 0), if_pos rfl]
  exact ⟨_, _, rfl⟩

/-- The preview succeeds if there are no errors. -/
theorem exitCode_generateLoaded_dryRun (disk : Disk (StateM σ)) (loaded : List (String × Blueprint))
    (output : String) (s : σ) : ((generateLoaded disk loaded output true).run s).1.exitCode = 0 ↔
      repetitionsAll (loaded.map (·.2)) = 0 := by
  rcases Nat.eq_zero_or_pos (repetitionsAll (loaded.map (·.2))) with none | pos
  · obtain ⟨text, remarks, e⟩ := run_generateLoaded_dryRun disk none output s
    rw [e]
    exact iff_of_true rfl none
  · obtain ⟨remarks, e⟩ := run_generateLoaded_of_pos disk pos output true s
    rw [e]
    exact iff_of_false Nat.one_ne_zero (Nat.pos_iff_ne_zero.1 pos)

/-- What is said when lints report errors. -/
def lintMessage (errors : Nat) : String := "lint failed with " ++ toString errors ++ " error(s)"

theorem lintMessage_inj {m n : Nat} (h : lintMessage m = lintMessage n) : m = n := by
  have middle {front back s t : String} (h : front ++ s ++ back = front ++ t ++ back) : s = t := by
    simpa using h
  exact toString_nat_inj (middle h)

/-- A failed write has more than one thing to say. -/
theorem message_writeScripts (blueprints : List Blueprint) (output remarks message : String)
    (s : σ) : ((writeScripts disk blueprints output remarks).run s).1.error.map
      CommandError.chain ≠ some [message] := by
  rw [writeScripts, StateT.run_bind]
  cases (generateAll (Sink.onDisk disk output) blueprints).run s with
  | mk r s' =>
    cases r with
    | ok _ => rintro ⟨⟩
    | error e =>
      obtain ⟨package, cause⟩ := e
      intro h
      have h := Option.some.inj h
      cases cause <;> exact absurd (List.cons.inj h).2 (List.cons_ne_nil _ _)

/-- The error that ends `generate` says how many errors the lints report, if they report any. -/
theorem message_generateLoaded (loaded : List (String × Blueprint)) (output : String)
    (dryRun : Bool) (s : σ) (n : Nat) :
    ((generateLoaded disk loaded output dryRun).run s).1.error.map CommandError.chain =
        some [lintMessage n] ↔
      0 < n ∧ n = repetitionsAll (loaded.map (·.2)) := by
  rcases Nat.eq_zero_or_pos (repetitionsAll (loaded.map (·.2))) with none | pos
  · -- no other failure is put in these words
    refine iff_of_false ?_ (by omega)
    rw [generateLoaded, foldl_errorCount, Nat.zero_add, none, if_neg (Nat.lt_irrefl 0)]
    cases dryRun with
    | true => rintro ⟨⟩
    | false => exact message_writeScripts _ _ _ _ s
  · obtain ⟨remarks, e⟩ := run_generateLoaded_of_pos disk pos output dryRun s
    rw [e]
    constructor
    · intro h
      have h : lintMessage _ = lintMessage n := List.singleton_inj.1 (Option.some.inj h)
      obtain rfl := lintMessage_inj h
      exact ⟨pos, rfl⟩
    · rintro ⟨-, rfl⟩
      rfl

/-! ## Commands -/

namespace Command

/-- Both commands load their files first, which changes nothing. -/
theorem run_of_loaded (reads : disk.ReadsOnly) (s : σ) (paths : List String) :
    (¬ (∀ path ∈ paths, ∃ b, disk.Holds s path b) ∧ ∃ e,
      (∀ json, ((check paths json).run disk).run s = (.failure (.load e) "", s)) ∧
      ∀ output dryRun, ((generate paths output dryRun).run disk).run s =
        (.failure (.load e) "", s)) ∨
    ∃ loaded, List.Forall₂ (fun path p => p.1 = path ∧ disk.Holds s path p.2) paths loaded ∧
      (∀ json, ((check paths json).run disk).run s = (checkOutcome loaded json, s)) ∧
      ∀ output dryRun, ((generate paths output dryRun).run disk).run s =
        (generateLoaded disk loaded output dryRun).run s := by
  obtain ⟨r, hr, r_iff⟩ := run_loadAll (s := s) reads paths
  cases r with
  | error e =>
    refine .inl ⟨?_, e, ?_, ?_⟩
    · intro h
      obtain ⟨loaded, hs⟩ := exists_loaded_of_holds h
      exact absurd ((r_iff loaded).2 hs) (by simp)
    · intro json
      rw [run, run_bind_of_unchanged hr]
      rfl
    · intro output dryRun
      rw [run, run_bind_of_unchanged hr]
      rfl
  | ok loaded =>
    refine .inr ⟨loaded, (r_iff loaded).1 rfl, ?_, ?_⟩
    · intro json
      rw [run, run_bind_of_unchanged hr]
      rfl
    · intro output dryRun
      rw [run, run_bind_of_unchanged hr]

/-- **Checking and generating depend on the same condition.** `check` and the preview of `generate`
succeed if all files pass. If not, `generate` fails and changes nothing. When all files hold
blueprints, a failure of the lints is reported with the number of names, blueprint by blueprint,
that several flavors have. -/
theorem succeeds_iff_passes (reads : disk.ReadsOnly) (s : σ) (paths : List String) :
    (∀ json, (((check paths json).run disk).run s).1.exitCode = 0 ↔ disk.Passes s paths) ∧
    (∀ output, (((generate paths output true).run disk).run s).1.exitCode = 0 ↔
      disk.Passes s paths) ∧
    (¬ disk.Passes s paths → ∀ output dryRun,
      (((generate paths output dryRun).run disk).run s).1.exitCode = 1 ∧
        (((generate paths output dryRun).run disk).run s).2 = s) ∧
    ∀ blueprints, List.Forall₂ (disk.Holds s) paths blueprints → ∀ output dryRun n,
      (((generate paths output dryRun).run disk).run s).1.error.map CommandError.chain =
          some ["lint failed with " ++ toString n ++ " error(s)"] ↔
        0 < n ∧ n = (blueprints.map fun b => repetitions b.flavorNames).sum := by
  rcases run_of_loaded reads s paths with ⟨unloaded, e, hc, hg⟩ | ⟨loaded, hl, hc, hg⟩
  · have fails : ¬ disk.Passes s paths :=
      fun passes => unloaded fun path hp => (passes path hp).imp fun _ h => h.1
    refine ⟨?_, ?_, ?_, ?_⟩
    · intro json
      rw [hc]
      exact iff_of_false Nat.one_ne_zero fails
    · intro output
      rw [hg]
      exact iff_of_false Nat.one_ne_zero fails
    · intro _ output dryRun
      rw [hg]
      exact ⟨rfl, rfl⟩
    · intro blueprints hb
      exact absurd (exists_of_forall₂ hb) unloaded
  · have passes_iff := passes_iff_of_loaded hl
    refine ⟨?_, ?_, ?_, ?_⟩
    · intro json
      rw [hc, exitCode_checkOutcome, passes_iff]
    · intro output
      rw [hg, exitCode_generateLoaded_dryRun, passes_iff]
    · intro fails output dryRun
      have pos := Nat.pos_iff_ne_zero.2 (mt passes_iff.2 fails)
      obtain ⟨remarks, e⟩ := run_generateLoaded_of_pos disk pos output dryRun s
      rw [hg, e]
      exact ⟨rfl, rfl⟩
    · intro blueprints hb output dryRun n
      rw [hg, ← map_snd_eq_of_holds hl hb]
      exact message_generateLoaded loaded output dryRun s n

/-- The text of a blueprint without flavors. -/
def plainText : String := "module = [\"a\", \"m\"]\nsdk = [3, 1, 2]"

/-- The text of a blueprint in which two names are given to several flavors. -/
def repeatedText : String :=
  "flavors = [[\"f\"], [\"g\"], [\"f\"], [\"h\"], [\"g\"], [\"g\"]]\n" ++ plainText

/-- A tree with the two texts. -/
def twoFiles : FileTree where
  root := [("a.toml", .file plainText.toUTF8), ("b.toml", .file repeatedText.toUTF8)]
  current := []

theorem succeeds_iff_passes_twoFiles : FileTree.disk.ReadsOnly ∧
    FileTree.disk.Passes twoFiles ["a.toml"] ∧
    ¬ FileTree.disk.Passes twoFiles ["a.toml", "b.toml"] ∧
    (((generate ["a.toml", "b.toml"] "out" false).run FileTree.disk).run twoFiles).2 = twoFiles ∧
    (((generate ["a.toml", "b.toml"] "out" false).run FileTree.disk).run twoFiles).1.error.map
      CommandError.chain = some ["lint failed with 2 error(s)"] := by
  have passes : (((check ["a.toml"] true).run FileTree.disk).run twoFiles).1.exitCode = 0 := by
    decide +kernel
  have fails : ¬ (((check ["a.toml", "b.toml"] false).run FileTree.disk).run
      twoFiles).1.exitCode = 0 := by
    decide +kernel
  let plain := Blueprint.new "a" "m" 3 1 2
  let repeated : Blueprint :=
    { plain with flavors := ["f", "g", "f", "h", "g", "g"].map (⟨·, none⟩) }
  have holds : List.Forall₂ (FileTree.disk.Holds twoFiles) ["a.toml", "b.toml"]
      [plain, repeated] :=
    .cons ⟨plainText, by decide +kernel, by decide +kernel⟩ <|
      .cons ⟨repeatedText, by decide +kernel, by decide +kernel⟩ .nil
  obtain ⟨good, -⟩ := succeeds_iff_passes FileTree.readsOnly_disk twoFiles ["a.toml"]
  obtain ⟨both, -, unchanged, message⟩ :=
    succeeds_iff_passes FileTree.readsOnly_disk twoFiles ["a.toml", "b.toml"]
  have not_passes := fails ∘ (both false).2
  exact ⟨FileTree.readsOnly_disk, (good true).1 passes, not_passes,
    (unchanged not_passes "out" false).2,
    (message _ holds "out" false 2).2 ⟨by decide, by decide +kernel⟩⟩

end Command

end GradleScript
