import GradleScript.Proofs.Blueprint.Equality
import GradleScript.Proofs.Cli.Reported

/-!
# Where scripts go and where they are said to be

The build script of a module is one step below it, so script paths tell modules apart exactly as the
paths of the modules do, however these are spelled. On its way to a disk a script path is joined to
the output directory, as a text, and so are the paths that are printed. A record of the paths that a
disk is asked to write to shows that these are the printed ones, in their order. It shows this for
every disk, whatever fails on it.

## Main definitions

* `Disk.recorded`: a disk with a record of the paths that are written to
* `OnRecord`: a computation does the same with a record, and adds certain paths to it
* `Visits`, `Reports`: the paths that a run writes to, and that a command writes to and prints

## Main results

* `OnRecord.bind`: what is added to the record by two computations in turn
* `onRecord_onDisk`, `onRecord_generateAll`: the paths that a file and a run are written to
* `scriptPaths_identify_modules`: script paths tell modules apart, and the paths that are printed
  are those that are written to
-/

namespace GradleScript

variable {σ ε α β : Type}

/-- The disk with a record of the paths that it is asked to write to, the first one first. -/
def Disk.recorded (disk : Disk (StateM σ)) : Disk (StateM (σ × List String)) where
  read path := fun (s, record) =>
    let (answer, s) := disk.read path s
    (answer, (s, record))
  makeDirs path := fun (s, record) =>
    let (answer, s) := disk.makeDirs path s
    (answer, (s, record))
  write path text := fun (s, record) =>
    let (answer, s) := disk.write path text s
    (answer, (s, record ++ [path]))

/-- A computation comes to the same with a record, and adds paths to it, for which and for the
result `P` holds. -/
def OnRecord (plain : StateM σ α) (recorded : StateM (σ × List String) α)
    (P : α → List String → Prop) : Prop :=
  ∀ s record, ∃ a s' added, plain.run s = (a, s') ∧
    recorded.run (s, record) = (a, (s', record ++ added)) ∧ P a added

/-- Of the paths that should be written to, some have been, in their order: all of them, unless
there was an error. -/
structure Visits (targets : List String) (answer : Except ε Unit) (done : List String) : Prop where
  front : done <+: targets
  all : answer = .ok () → done = targets

/-- All paths have been written to. -/
theorem Visits.self (targets : List String) (answer : Except ε Unit) :
    Visits targets answer targets :=
  ⟨List.prefix_rfl, fun _ => rfl⟩

/-- With an error, any first ones of the paths may have been written to. -/
theorem Visits.ofError {targets done : List String} (front : done <+: targets) (e : ε) :
    Visits targets (.error e) done :=
  ⟨front, fun h => by cases h⟩

/-- What is printed about the paths that were written to. -/
def reportText (done : List String) : String :=
  "Generated " ++ toString done.length ++ " build script(s):\n" ++
    String.join (done.map fun target => "  + " ++ target ++ "\n")

/-- How a command ends that should write to some paths: it wrote to them all and prints the paths
that it wrote to, or it fails and prints nothing. -/
inductive Reports (targets : List String) (remarks : String) : Outcome → List String → Prop where
  | success : Reports targets remarks (.success (reportText targets) remarks) targets
  | failure {done : List String} (error : ModuleError WriteError) (front : done <+: targets) :
    Reports targets remarks (.failure (.write error) remarks) done

/-! ## Computations on record -/

namespace OnRecord

variable {x : StateM σ α} {x' : StateM (σ × List String) α} {P Q : α → List String → Prop}

protected theorem pure {a : α} (h : P a []) :
    OnRecord (pure a : StateM σ α) (pure a) P :=
  fun s record => ⟨a, s, [], rfl, by rw [List.append_nil]; rfl, h⟩

protected theorem mono (h : OnRecord x x' P) (weaker : ∀ a added, P a added → Q a added) :
    OnRecord x x' Q := by
  intro s record
  obtain ⟨a, s', added, plain, recorded, hP⟩ := h s record
  exact ⟨a, s', added, plain, recorded, weaker a added hP⟩

/-- **Two computations in turn** add the paths of the first one and then those of the second. -/
protected theorem bind {f : α → StateM σ β} {f' : α → StateM (σ × List String) β}
    {R : β → List String → Prop} (first : OnRecord x x' P)
    (second : ∀ a added, P a added → OnRecord (f a) (f' a) fun b more => R b (added ++ more)) :
    OnRecord (x >>= f) (x' >>= f') R := by
  intro s record
  obtain ⟨a, s₁, added, hx, hx', hP⟩ := first s record
  obtain ⟨b, s₂, more, hf, hf', hR⟩ := second a added hP s₁ (record ++ added)
  refine ⟨b, s₂, added ++ more, ?_, ?_, hR⟩
  · rw [StateT.run_bind, hx]
    exact hf
  · rw [StateT.run_bind, hx', ← List.append_assoc]
    exact hf'

end OnRecord

/-! ## Writing -/

section Writing

variable (disk : Disk (StateM σ))

theorem onRecord_makeDirs (path : String) :
    OnRecord (disk.makeDirs path) (disk.recorded.makeDirs path) fun _ added => added = [] :=
  fun _ record => ⟨_, _, [], rfl, by rw [List.append_nil]; rfl, rfl⟩

theorem onRecord_write (path text : String) :
    OnRecord (disk.write path text) (disk.recorded.write path text) fun _ added => added = [path] :=
  fun _ _ => ⟨_, _, [path], rfl, rfl, rfl⟩

/-- What follows the write of a file only says how it went. -/
theorem onRecord_write_bind {target text : String}
    {finish : Except FileFailure Unit → StateM σ (Except ε Unit)}
    {finish' : Except FileFailure Unit → StateM (σ × List String) (Except ε Unit)}
    (only : ∀ answer, ∃ r, finish answer = pure r ∧ finish' answer = pure r) :
    OnRecord (disk.write target text >>= finish) (disk.recorded.write target text >>= finish')
      (Visits [target]) := by
  refine (onRecord_write disk target text).bind fun answer added written => ?_
  obtain ⟨r, h, h'⟩ := only answer
  rw [h, h', written]
  exact .pure (.self [target] r)

/-- **A file is written to its path joined to the base**, unless its directory cannot be made. -/
theorem onRecord_onDisk (base : String) (file : File) :
    OnRecord ((Sink.onDisk disk base).write file) ((Sink.onDisk disk.recorded base).write file)
      (Visits [Path.join base file.path]) := by
  rw [← resolve_eq_join, Sink.onDisk, Sink.onDisk]
  dsimp only
  cases Path.parent? (Sink.resolve base file.path) with
  | none => exact onRecord_write_bind disk fun answer => by cases answer <;> exact ⟨_, rfl, rfl⟩
  | some directory =>
    refine (onRecord_makeDirs disk directory).bind fun answer added none_added => ?_
    subst none_added
    cases answer with
    | error failure => exact .pure (.ofError List.nil_prefix _)
    | ok _ => exact onRecord_write_bind disk fun answer => by cases answer <;> exact ⟨_, rfl, rfl⟩

/-- The paths that the scripts of blueprints have below a directory. -/
def scriptTargets (base : String) (blueprints : List Blueprint) : List String :=
  blueprints.map fun b => Path.join base b.scriptPath

/-- **A run writes to the joined paths**, in the order of the blueprints. -/
theorem onRecord_generateAll (base : String) (blueprints : List Blueprint) :
    OnRecord (generateAll (Sink.onDisk disk base) blueprints)
      (generateAll (Sink.onDisk disk.recorded base) blueprints)
      (Visits (scriptTargets base blueprints)) := by
  induction blueprints with
  | nil => exact .pure (.self [] _)
  | cons b rest ih =>
    refine (onRecord_onDisk disk base (b.preview .standard)).bind fun answer added first => ?_
    cases answer with
    | error cause =>
      refine .pure ?_
      rw [List.append_nil]
      exact .ofError (first.front.trans ⟨scriptTargets base rest, rfl⟩) _
    | ok _ =>
      obtain rfl := first.all rfl
      refine ih.mono fun answer more others => ⟨?_, fun done => ?_⟩
      · exact (List.prefix_append_right_inj _).2 others.front
      · rw [others.all done]
        rfl

theorem generatedText_eq_reportText (output : String) (blueprints : List Blueprint) :
    generatedText output blueprints = reportText (scriptTargets output blueprints) := by
  rw [generatedText, reportText, scriptTargets, List.length_map, List.map_map]
  rfl

/-- The paths that are printed are those that were written to. -/
theorem onRecord_writeScripts (blueprints : List Blueprint) (output remarks : String) :
    OnRecord (writeScripts disk blueprints output remarks)
      (writeScripts disk.recorded blueprints output remarks)
      (Reports (scriptTargets output blueprints) remarks) := by
  refine (onRecord_generateAll disk output blueprints).bind fun answer done visits => ?_
  cases answer with
  | error e =>
    refine .pure ?_
    rw [List.append_nil]
    exact .failure e visits.front
  | ok _ =>
    refine .pure ?_
    rw [List.append_nil, visits.all rfl, generatedText_eq_reportText]
    exact .success

end Writing

/-! ## Paths of scripts -/

/-- Scripts are in the same place if their modules are. -/
theorem Blueprint.same_scriptPath_iff (a b : Blueprint) :
    Path.same a.scriptPath b.scriptPath = true ↔ Path.same a.path b.path = true :=
  Path.same_join_iff (by decide) (by decide) (by decide) a.path b.path

/-- **Script paths identify modules, and the paths that are printed are those that are written to.**
A script is one step below its module, so that scripts have the same path, up to its spelling, if
and only if their modules have. The path that a file is written to is the base joined with its path,
as a text; and when scripts are written to a disk, the paths that are printed are the ones that the
disk was asked to write to, each in its place, or else there is an error and none is printed. -/
theorem scriptPaths_identify_modules :
    (∀ b : Blueprint,
      Path.components b.scriptPath = Path.components b.path ++ [.name "build.gradle"]) ∧
    (∀ a b : Blueprint,
      Path.same a.scriptPath b.scriptPath = true ↔ Path.same a.path b.path = true) ∧
    (∀ base path, Sink.resolve base path = Path.join base path) ∧
    ∀ (σ : Type) (disk : Disk (StateM σ)) (blueprints : List Blueprint) (output remarks : String)
      (s : σ), ∃ outcome s' done,
        (writeScripts disk blueprints output remarks).run s = (outcome, s') ∧
        (writeScripts disk.recorded blueprints output remarks).run (s, []) =
          (outcome, (s', done)) ∧
        Reports (blueprints.map fun b => Path.join output b.scriptPath) remarks outcome done :=
  ⟨Blueprint.components_scriptPath, Blueprint.same_scriptPath_iff, resolve_eq_join,
    fun _ disk blueprints output remarks s =>
      onRecord_writeScripts disk blueprints output remarks s []⟩

/-- The paths keep their spelling on the way to the disk, and the second module is not below the
output directory. -/
example :
    let blueprints : List Blueprint := [.new "a" "lib/..//app/." 3 1 2, .new "b" "/srv/" 3 1 2]
    let done := (writeScripts FileTree.disk.recorded blueprints "out/" "").run (usedTree, [])
    done.1.exitCode = 0 ∧
      done.2.2 = ["out/lib/..//app/./build.gradle", "/srv/build.gradle"] := by
  decide +kernel

end GradleScript
