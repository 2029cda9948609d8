import GradleScript.Blueprint.Script
import GradleScript.Sink

/-!
# Generating build scripts

The build script of a blueprint goes to the script path of its module. Several blueprints are
generated in order; the first refusal ends the run.

## Main definitions

* `Blueprint.preview`: the file of a build script
* `generateAll`: hands the files of several blueprints to a sink
-/

namespace GradleScript

/-- The build script of a blueprint as a file. -/
def Blueprint.preview (b : Blueprint) (indent : Indent) : File :=
  ⟨b.scriptPath, b.render indent⟩

/-- A refusal, with the package of the module whose script was refused. -/
structure ModuleError (ε : Type) where
  package : String
  cause : ε
  deriving DecidableEq, Repr

/-- What is said about a module whose script was refused. -/
def ModuleError.message {ε : Type} (e : ModuleError ε) : String :=
  "failed to generate module '" ++ e.package ++ "'"

/-- What is said about a refusal, the outer message first; `describe` gives what is said about the
cause. -/
def ModuleError.chain {ε : Type} (describe : ε → List String) (e : ModuleError ε) : List String :=
  e.message :: describe e.cause

section Sinks

variable {m : Type → Type} [Monad m] {ε : Type}

/-- Hands the build script of one blueprint to a sink. -/
def generate (sink : Sink m ε) (indent : Indent) (b : Blueprint) : m (Except ε Unit) :=
  sink.write (b.preview indent)

/-- Hands the build scripts of several blueprints to a sink, in order and up to the first that is
refused. -/
def generateAll (sink : Sink m ε) : List Blueprint → m (Except (ModuleError ε) Unit)
  | [] => pure (.ok ())
  | b :: rest => do
    match ← generate sink .standard b with
    | .ok () => generateAll sink rest
    | .error cause => pure (.error ⟨b.package, cause⟩)

end Sinks

/-- The files that several blueprints make in memory. -/
def previewAll (blueprints : List Blueprint) : List File :=
  ((generateAll (Sink.memory Empty) blueprints).run []).2

end GradleScript
