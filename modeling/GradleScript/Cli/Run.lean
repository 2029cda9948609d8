import GradleScript.Cli.Arguments
import GradleScript.Generate
import GradleScript.Lint
import GradleScript.Load
import GradleScript.Report

/-!
# Commands

What each command reads, reports and writes. All blueprints are loaded before any is looked at,
and all are linted before any script is written; an error of a lint keeps every script from being
written. The commands run in any monad with a disk.

## Main definitions

* `Outcome`: what a command leaves behind besides files
* `Command.run`: runs a command
* `runArguments`: runs the command of a list of arguments
-/

namespace GradleScript

/-- Why a command fails. -/
inductive CommandError where
  /-- The arguments make no command line. -/
  | usage
  /-- A blueprint does not load. -/
  | load (error : LoadError)
  /-- Lints report errors. -/
  | lint (errors : Nat)
  /-- A script is not written. -/
  | write (error : ModuleError WriteError)
  deriving DecidableEq, Repr

/-- What is said about a command that fails, the outer message first. -/
def CommandError.chain : CommandError → List String
  | .usage => ["usage"]
  | .load error => [error.message]
  | .lint errors => ["lint failed with " ++ toString errors ++ " error(s)"]
  | .write error => error.message :: error.cause.chain FileFailure.systemMessage

theorem CommandError.chain_write (error : ModuleError WriteError) :
    (write error).chain = error.chain (WriteError.chain FileFailure.systemMessage) := rfl

/-- What a command leaves behind besides files: its exit code, what it prints, the remarks it
makes on the way, and the error that ends it. -/
structure Outcome where
  exitCode : Nat
  output : String
  remarks : String
  error : Option CommandError
  deriving DecidableEq, Repr

namespace Outcome

/-- A command that succeeds. -/
def success (output : String) (remarks : String) : Outcome := ⟨0, output, remarks, none⟩

/-- A command that fails. -/
def failure (error : CommandError) (remarks : String) : Outcome := ⟨1, "", remarks, some error⟩

/-- Arguments that make no command line. -/
def misuse : Outcome := ⟨2, "", "", some .usage⟩

end Outcome

/-- The name and the version of the program. -/
def versionLine : String := "modgen 0.1.0\n"

/-- What the program is called with. -/
def usageText : String :=
  "Usage: modgen [-v] <COMMAND>\n\n" ++
  "  generate [--output DIR] [--dry-run] [BLUEPRINTS]...\n" ++
  "  check [--json] [BLUEPRINTS]...\n" ++
  "  show [BLUEPRINT]\n" ++
  "  completions <SHELL>\n"

/-- The words that complete a command line, one on each line. -/
def completionWords : String := "generate\ncheck\nshow\ncompletions\nhelp\n"

/-- The remarks of lints on the blueprint of a file, each with the file on a line below it. -/
def remarksText (path : String) (diagnostics : List Diagnostic) : String :=
  String.join (diagnostics.map fun d => d.text ++ "\n  --> " ++ path ++ "\n")

/-- A diagnostic in a report. -/
def Diagnostic.toReport (d : Diagnostic) : Report :=
  .object [("severity", .text d.severity.label), ("lint", .text d.lint),
    ("message", .text d.message), ("location", (d.location.map Report.text).getD .null)]

/-- The report on the blueprint of a file. -/
def fileReport (path : String) (diagnostics : List Diagnostic) : Report :=
  .object [("file", .text path), ("diagnostics", .list (diagnostics.map (·.toReport)))]

/-- A file as the preview shows it. -/
def File.previewText (f : File) : String :=
  "── " ++ f.path ++ " ──\n" ++ f.content ++ "\n"

/-- What the preview of several files shows. -/
def previewText (files : List File) : String :=
  String.join (files.map (·.previewText)) ++ "── Summary ──\n" ++ toString files.length ++
    " files would be generated\n"

/-- What is printed about the scripts that were written below a directory. -/
def generatedText (output : String) (blueprints : List Blueprint) : String :=
  "Generated " ++ toString blueprints.length ++ " build script(s):\n" ++
    String.join (blueprints.map fun b => "  + " ++ Path.join output b.scriptPath ++ "\n")

/-- What `check` does once the blueprints of its files are loaded. -/
def checkOutcome (loaded : List (String × Blueprint)) (json : Bool) : Outcome :=
  let results := loaded.map fun p => (p.1, p.2.lint)
  let hasErrors := results.any fun r => r.2.any (·.isError)
  let output :=
    if json then (Report.list (results.map fun r => fileReport r.1 r.2)).pretty ++ "\n"
    else if hasErrors then ""
    else "✓ " ++ toString results.length ++ " blueprint(s) valid\n"
  let remarks := if json then "" else String.join (results.map fun r => remarksText r.1 r.2)
  ⟨if hasErrors then 1 else 0, output, remarks, none⟩

section Commands

variable {m : Type → Type} [Monad m] (disk : Disk m)

/-- Loads the blueprint of a file. -/
def loadFile (path : String) : m (Except LoadError Blueprint) := do
  match ← disk.read path with
  | .error failure => pure (.error (.unreadable path failure))
  | .ok text => pure (Blueprint.load ⟨path, text⟩)

/-- Loads the blueprints of several files, up to the first that does not load. -/
def loadAll : List String → m (Except LoadError (List (String × Blueprint)))
  | [] => pure (.ok [])
  | path :: rest => do
    match ← loadFile disk path with
    | .error e => pure (.error e)
    | .ok b =>
      match ← loadAll rest with
      | .error e => pure (.error e)
      | .ok loaded => pure (.ok ((path, b) :: loaded))

/-- Writes the scripts of blueprints that are loaded and linted. -/
def writeScripts (blueprints : List Blueprint) (output remarks : String) : m Outcome := do
  match ← generateAll (Sink.onDisk disk output) blueprints with
  | .ok () => pure (.success (generatedText output blueprints) remarks)
  | .error e => pure (.failure (.write e) remarks)

/-- What `generate` does once the blueprints of its files are loaded. -/
def generateLoaded (loaded : List (String × Blueprint)) (output : String) (dryRun : Bool) :
    m Outcome :=
  let results := loaded.map fun p => (p.1, p.2.lint)
  let remarks := String.join (results.map fun r => remarksText r.1 r.2)
  let errors := results.foldl (fun n r => n + errorCount r.2) 0
  let blueprints := loaded.map (·.2)
  if 0 < errors then pure (.failure (.lint errors) remarks)
  else if dryRun then pure (.success (previewText (previewAll blueprints)) remarks)
  else writeScripts disk blueprints output remarks

/-- Runs a command. -/
def Command.run : Command → m Outcome
  | .generate paths output dryRun => do
    match ← loadAll disk paths with
    | .error e => pure (.failure (.load e) "")
    | .ok loaded => generateLoaded disk loaded output dryRun
  | .check paths json => do
    match ← loadAll disk paths with
    | .error e => pure (.failure (.load e) "")
    | .ok loaded => pure (checkOutcome loaded json)
  | .show path => do
    match ← loadFile disk path with
    | .error e => pure (.failure (.load e) "")
    | .ok b => pure (.success ((b.preview .standard).content ++ "\n") "")
  | .completions _ => pure (.success completionWords "")
  | .help => pure (.success usageText "")
  | .version => pure (.success versionLine "")

/-- Runs the command of a list of arguments. -/
def runArguments (args : List String) : m Outcome :=
  match Command.parse? args with
  | some command => command.run disk
  | none => pure .misuse

end Commands

end GradleScript
