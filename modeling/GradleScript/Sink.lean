import GradleScript.Disk
import GradleScript.Path

/-!
# Where scripts go

A sink takes files one at a time and may refuse any of them. Three sinks are given: one that keeps
the files in memory, one that refuses all files from some point on, and one that writes them to a
disk below a base directory.

## Main definitions

* `File`: a path with a text
* `Sink`: what takes files
* `Sink.memory`, `Sink.refusing`, `Sink.onDisk`: the sinks
-/

namespace GradleScript

/-- A text with the path that it goes to. -/
structure File where
  path : String
  content : String
  deriving DecidableEq, Repr

/-- Whether two files have the same text at the same path, however the path is spelled. -/
def File.same (a b : File) : Bool :=
  Path.same a.path b.path && a.content == b.content

/-- What takes files, in a monad `m`; a refusal is a value of `ε`. -/
structure Sink (m : Type → Type) (ε : Type) where
  write : File → m (Except ε Unit)

/-- Why a file was not written to a disk. -/
inductive WriteError where
  /-- The directory of the file cannot be made. -/
  | makeFailed (directory : String) (failure : FileFailure)
  /-- The file cannot be written. -/
  | writeFailed (target : String) (failure : FileFailure)
  deriving DecidableEq, Repr

/-- What is said about a file that was not written, the outer message first; `describe` gives the
inner one. -/
def WriteError.chain (describe : FileFailure → String) : WriteError → List String
  | .makeFailed directory failure =>
    ["failed to create '" ++ directory ++ "'", describe failure]
  | .writeFailed target failure => ["failed to write '" ++ target ++ "'", describe failure]

/-- The refusal of a write, with its number, counted from one. -/
structure RefusedWrite where
  number : Nat
  deriving DecidableEq, Repr

/-- What is said about a refused write. -/
def RefusedWrite.message (r : RefusedWrite) : String :=
  "refused write " ++ toString r.number

/-- The state of a sink that refuses files: how many writes there were, and the files that were
taken. -/
structure Ledger where
  writes : Nat
  files : List File
  deriving DecidableEq, Repr

namespace Sink

/-- Keeps all files, in order. -/
def memory (ε : Type) : Sink (StateM (List File)) ε where
  write file := fun files => (.ok (), files ++ [file])

/-- Keeps all files in order, but refuses every write from the one of number `limit` on, if a
limit is given. -/
def refusing (limit : Option Nat) : Sink (StateM Ledger) RefusedWrite where
  write file := fun l =>
    let number := l.writes + 1
    if limit.any fun n => n ≤ number then (.error ⟨number⟩, { l with writes := number })
    else (.ok (), ⟨number, l.files ++ [file]⟩)

/-- The path that a file goes to below a base directory; an absolute path stays as it is. -/
def resolve (base path : String) : String :=
  if Path.isAbsolute path then path else Path.join base path

/-- Writes files to a disk below a base directory. The directory of a file is made first; the
root and the empty path have none. -/
def onDisk {m : Type → Type} [Monad m] (disk : Disk m) (base : String) : Sink m WriteError where
  write file := do
    let target := resolve base file.path
    let finish : m (Except WriteError Unit) := do
      match ← disk.write target file.content with
      | .ok () => pure (.ok ())
      | .error failure => pure (.error (.writeFailed target failure))
    match Path.parent? target with
    | none => finish
    | some directory =>
      match ← disk.makeDirs directory with
      | .ok () => finish
      | .error failure => pure (.error (.makeFailed directory failure))

end Sink

end GradleScript
