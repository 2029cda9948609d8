import GradleScript.Proofs.Generate.OnDisk

/-!
# A run up to the first refusal

Scripts are handed to a sink one after the other until the sink refuses one. This holds of every
sink, whatever its state is and however it decides: a record of the calls that it gets shows the
scripts in the order of their blueprints, each once, up to the first that is refused and no further.
The run fails if and only if there is one, and then its error names the module of that script and
hands on what the sink said.

## Main definitions

* `Sink.recorded`: a sink with a record of its calls
* `StopsAfter`: the calls and the outcome of a run in which the scripts of some blueprints are taken
* `Sink.Keeps`: a sink keeps the files that it takes, in order

## Main results

* `StopsAfter.ok_iff`, `StopsAfter.chain_of_error`: what the calls say about the outcome
* `run_generateAll_of_taken`, `run_generateAll_of_refused`: what the first script does to a run
* `generateAll_stopsAfter`: a run stops at the first refusal
-/

namespace GradleScript

variable {σ ε : Type}

/-- A call of a sink: the file that it gets, and its answer. -/
abbrev SinkCall (ε : Type) := File × Except ε Unit

/-- The sink with a record of its calls, the first one first. -/
def Sink.recorded (sink : Sink (StateM σ) ε) : Sink (StateM (σ × List (SinkCall ε))) ε where
  write file := fun (s, calls) =>
    let (answer, s) := sink.write file s
    (answer, (s, calls ++ [(file, answer)]))

/-- The call by which the script of a blueprint is taken. -/
def Blueprint.takenCall (b : Blueprint) : SinkCall ε := (b.preview .standard, .ok ())

/-- The calls and the outcome of a run over some blueprints in which the scripts of those in front
are taken: either these are all, or the next script is refused and the run ends with it. -/
inductive StopsAfter : (done blueprints : List Blueprint) → List (SinkCall ε) →
    Except (ModuleError ε) Unit → Prop where
  | all (blueprints : List Blueprint) :
    StopsAfter blueprints blueprints (blueprints.map (·.takenCall)) (.ok ())
  | refused (done : List Blueprint) (b : Blueprint) (rest : List Blueprint) (cause : ε) :
    StopsAfter done (done ++ b :: rest)
      (done.map (·.takenCall) ++ [(b.preview .standard, .error cause)]) (.error ⟨b.package, cause⟩)

/-- Of the state of a sink, `held` are the files that it has taken, in order. -/
structure Sink.Keeps (sink : Sink (StateM σ) ε) (held : σ → List File) : Prop where
  taken : ∀ {file s s'}, (sink.write file).run s = (.ok (), s') → held s' = held s ++ [file]
  refused : ∀ {file s s' cause}, (sink.write file).run s = (.error cause, s') → held s' = held s

/-! ## Calls and outcomes -/

namespace StopsAfter

variable {done blueprints : List Blueprint} {calls : List (SinkCall ε)}
  {outcome : Except (ModuleError ε) Unit}

/-- One more blueprint in front whose script is taken. -/
theorem cons (b : Blueprint) (h : StopsAfter done blueprints calls outcome) :
    StopsAfter (b :: done) (b :: blueprints) (b.takenCall :: calls) outcome := by
  cases h with
  | all => exact .all (b :: done)
  | refused c rest cause => exact .refused (b :: done) c rest cause

/-- A run succeeds if and only if no script is refused. -/
theorem ok_iff (h : StopsAfter done blueprints calls outcome) :
    outcome = .ok () ↔ ∀ call ∈ calls, call.2 = .ok () := by
  cases h with
  | all => exact iff_of_true rfl (List.forall_mem_map.2 fun _ _ => rfl)
  | refused b rest cause =>
    refine iff_of_false (by rintro ⟨⟩) fun h => ?_
    cases h (b.preview .standard, .error cause) (by simp)

/-- The error of a run names the module whose script was refused, and says what the sink said. -/
theorem chain_of_error (h : StopsAfter done blueprints calls outcome) {e : ModuleError ε}
    (failed : outcome = .error e) :
    ∃ b cause, blueprints[done.length]? = some b ∧
      calls.getLast? = some (b.preview .standard, .error cause) ∧
      ∀ describe, e.chain describe =
        ("failed to generate module '" ++ b.package ++ "'") :: describe cause := by
  cases h with
  | all => cases failed
  | refused b rest cause =>
    cases failed
    exact ⟨b, cause, by simp, by simp, fun describe => rfl⟩

end StopsAfter

/-! ## A run -/

variable {sink : Sink (StateM σ) ε} {b : Blueprint} {rest : List Blueprint} {s s' : σ}

/-- If the first script is taken, the run goes on with the others. -/
theorem run_generateAll_of_taken
    (h : (sink.write (b.preview .standard)).run s = (.ok (), s')) :
    (generateAll sink (b :: rest)).run s = (generateAll sink rest).run s' := by
  rw [generateAll, StateT.run_bind, generate, h]
  rfl

/-- If the first script is refused, the run is over. -/
theorem run_generateAll_of_refused {cause : ε}
    (h : (sink.write (b.preview .standard)).run s = (.error cause, s')) :
    (generateAll sink (b :: rest)).run s = (.error ⟨b.package, cause⟩, s') := by
  rw [generateAll, StateT.run_bind, generate, h]
  rfl

/-- A record says what the sink answers, and changes nothing else. -/
theorem run_write_recorded {file : File} {answer : Except ε Unit} (calls : List (SinkCall ε))
    (h : (sink.write file).run s = (answer, s')) :
    (sink.recorded.write file).run (s, calls) = (answer, (s', calls ++ [(file, answer)])) := by
  have recorded : (sink.recorded.write file).run (s, calls) =
      (((sink.write file).run s).1,
        (((sink.write file).run s).2, calls ++ [(file, ((sink.write file).run s).1)])) := rfl
  rw [recorded, h]

/-- A run is the same with a record, which it leaves with the calls up to the first refusal; a sink
that keeps what it takes has the scripts that were taken. -/
theorem exists_stopsAfter (sink : Sink (StateM σ) ε) (blueprints : List Blueprint) (s : σ)
    (before : List (SinkCall ε)) :
    ∃ done calls outcome s', (generateAll sink blueprints).run s = (outcome, s') ∧
      (generateAll sink.recorded blueprints).run (s, before) = (outcome, (s', before ++ calls)) ∧
      StopsAfter done blueprints calls outcome ∧
      ∀ held, sink.Keeps held → held s' = held s ++ done.map (·.preview .standard) := by
  induction blueprints generalizing s before with
  | nil =>
    refine ⟨[], [], .ok (), s, rfl, ?_, .all [], fun held _ => (List.append_nil _).symm⟩
    rw [List.append_nil]
    rfl
  | cons b rest ih =>
    cases hw : (sink.write (b.preview .standard)).run s with
    | mk answer s₁ =>
    have hrec := run_write_recorded before hw
    cases answer with
    | error cause =>
      exact ⟨[], _, _, s₁, run_generateAll_of_refused hw, run_generateAll_of_refused hrec,
        .refused [] b rest cause, fun held keeps => by simp [keeps.refused hw]⟩
    | ok _ =>
      obtain ⟨done, calls, outcome, s', hr, hrr, stops, kept⟩ :=
        ih s₁ (before ++ [b.takenCall])
      refine ⟨b :: done, b.takenCall :: calls, outcome, s', ?_, ?_, stops.cons b, ?_⟩
      · rw [run_generateAll_of_taken hw, hr]
      · rw [run_generateAll_of_taken hrec]
        rw [List.append_assoc] at hrr
        exact hrr
      · intro held keeps
        rw [kept held keeps, keeps.taken hw, List.append_assoc]
        rfl

/-- **A run stops at the first refusal**, whatever the sink. The calls that it makes of the sink are
those for the scripts that are taken and the first that is refused, if one is. It succeeds if and
only if none is; otherwise its error names the module of the script that is refused and goes on with
what the sink says. A sink that keeps what it takes ends up with the scripts that were taken behind
the files that it had. -/
theorem generateAll_stopsAfter (sink : Sink (StateM σ) ε) (blueprints : List Blueprint) (s : σ) :
    ∃ done calls outcome s', (generateAll sink blueprints).run s = (outcome, s') ∧
      (generateAll sink.recorded blueprints).run (s, []) = (outcome, (s', calls)) ∧
      StopsAfter done blueprints calls outcome ∧
      (outcome = .ok () ↔ ∀ call ∈ calls, call.2 = .ok ()) ∧
      (∀ e, outcome = .error e → ∃ b cause, blueprints[done.length]? = some b ∧
        calls.getLast? = some (b.preview .standard, .error cause) ∧
        ∀ describe, e.chain describe =
          ("failed to generate module '" ++ b.package ++ "'") :: describe cause) ∧
      ∀ held, sink.Keeps held → held s' = held s ++ done.map (·.preview .standard) := by
  obtain ⟨done, calls, outcome, s', hr, hrr, stops, kept⟩ := exists_stopsAfter sink blueprints s []
  exact ⟨done, calls, outcome, s', hr, hrr, stops, stops.ok_iff, fun e => stops.chain_of_error,
    kept⟩

/-! ## Sinks that keep what they take -/

theorem Sink.keeps_memory (ε : Type) : (Sink.memory ε).Keeps id where
  taken h := (congrArg Prod.snd h).symm
  refused h := by cases h

theorem Sink.keeps_refusing (limit : Option Nat) : (Sink.refusing limit).Keeps Ledger.files := by
  have write (file : File) (l : Ledger) : ((Sink.refusing limit).write file).run l =
      if limit.any fun n => n ≤ l.writes + 1 then (.error ⟨l.writes + 1⟩, ⟨l.writes + 1, l.files⟩)
      else (.ok (), ⟨l.writes + 1, l.files ++ [file]⟩) := rfl
  constructor
  · intro file l l' h
    rw [write] at h
    split at h
    · cases h
    · cases h
      rfl
  · intro file l l' cause h
    rw [write] at h
    split at h
    · cases h
      rfl
    · cases h

/-- Three modules, for a sink that refuses the second write. -/
def refusedModules : List Blueprint :=
  [.new "a" "app" 3 1 2, .new "b" "lib" 3 1 2, .new "c" "m" 3 1 2]

theorem generateAll_stopsAfter_refusedModules :
    (Sink.refusing (some 2)).Keeps Ledger.files ∧
    (generateAll (Sink.refusing (some 2)) refusedModules).run ⟨0, []⟩ =
      (.error ⟨"b", ⟨2⟩⟩, ⟨2, [(Blueprint.new "a" "app" 3 1 2).preview .standard]⟩) ∧
    ∃ done calls,
      StopsAfter done refusedModules calls (.error (⟨"b", ⟨2⟩⟩ : ModuleError RefusedWrite)) ∧
      done.map (·.preview .standard) = [(Blueprint.new "a" "app" 3 1 2).preview .standard] := by
  have keeps := Sink.keeps_refusing (some 2)
  have run : (generateAll (Sink.refusing (some 2)) refusedModules).run ⟨0, []⟩ =
      (.error ⟨"b", ⟨2⟩⟩, ⟨2, [(Blueprint.new "a" "app" 3 1 2).preview .standard]⟩) := rfl
  obtain ⟨done, calls, outcome, l, hr, -, stops, -, -, kept⟩ :=
    generateAll_stopsAfter (Sink.refusing (some 2)) refusedModules ⟨0, []⟩
  obtain ⟨rfl, rfl⟩ := Prod.mk.inj (run.symm.trans hr)
  exact ⟨keeps, run, done, calls, stops, (kept _ keeps).symm⟩

end GradleScript
