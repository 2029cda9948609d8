import GradleScript.Cli.Run

/-!
# The program

Runs the command of the arguments on the files of the machine.
-/

namespace GradleScript

/-- The failure that an error of the operating system stands for. -/
def fileFailure : IO.Error → FileFailure
  | .noFileOrDirectory .. => .notFound
  | .noSuchThing .. => .notFound
  | .alreadyExists .. => .alreadyExists
  | .inappropriateType .. => .notADirectory
  | _ => .invalidInput

/-- Carries out an operation, with its failure as a value. -/
def attempt {α : Type} (act : IO α) : IO (Except FileFailure α) := do
  try
    let a ← act
    return .ok a
  catch e =>
    return .error (fileFailure e)

/-- The disk of the machine. -/
def machineDisk : Disk IO where
  read path := do
    match ← attempt (IO.FS.readBinFile path) with
    | .error e => return .error e
    | .ok bytes =>
      match String.fromUTF8? bytes with
      | some text => return .ok text
      | none => return .error .invalidData
  makeDirs path := attempt (if path.isEmpty then pure () else IO.FS.createDirAll path)
  write path text := attempt (IO.FS.writeFile path text)

end GradleScript

open GradleScript in
/-- Runs the command of the arguments. -/
def main (args : List String) : IO UInt32 := do
  let outcome ← runArguments machineDisk args
  IO.eprint outcome.remarks
  IO.print outcome.output
  match outcome.error with
  | some e => IO.eprintln ("Error: " ++ ": ".intercalate e.chain)
  | none => pure ()
  return outcome.exitCode.toUInt32
