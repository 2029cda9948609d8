import GradleScript.Blueprint

/-!
# Arguments of the command line

A command line names one command, with options and paths. Options start with a dash and may stand
anywhere; those before the command belong to the program, those after it to the command. Two
dashes alone end the options. A value stands behind its option or in the next argument, short
options may share a dash, and no option is given twice at one place.

## Main definitions

* `Command`: what a command line asks for
* `Command.parse?`: the command of a list of arguments
-/

namespace GradleScript

/-- A shell that completions are written for. -/
inductive Shell where
  | bash
  | elvish
  | fish
  | powershell
  | zsh
  deriving DecidableEq, Repr

/-- The shell of a name. -/
def Shell.ofName? : String → Option Shell
  | "bash" => some .bash
  | "elvish" => some .elvish
  | "fish" => some .fish
  | "powershell" => some .powershell
  | "zsh" => some .zsh
  | _ => none

/-- What a command line asks for. -/
inductive Command where
  /-- Writes the build scripts of some blueprints, or only shows them. -/
  | generate (blueprints : List String) (output : String) (dryRun : Bool)
  /-- Reports on some blueprints. -/
  | check (blueprints : List String) (json : Bool)
  /-- Shows the build script of one blueprint. -/
  | show (blueprint : String)
  | completions (shell : Shell)
  | help
  | version
  deriving DecidableEq, Repr

namespace Cli

/-- The options. -/
inductive Flag where
  | verbose
  | help
  | version
  | output
  | dryRun
  | json
  deriving DecidableEq, Repr

namespace Flag

/-- The name of an option, which goes with two dashes. -/
def long : Flag → String
  | .verbose => "verbose"
  | .help => "help"
  | .version => "version"
  | .output => "output"
  | .dryRun => "dry-run"
  | .json => "json"

/-- The letter of an option, which goes with one dash. -/
def short? : Flag → Option Char
  | .verbose => some 'v'
  | .help => some 'h'
  | .version => some 'V'
  | .output => some 'o'
  | .dryRun => none
  | .json => none

/-- Whether an option has a value. -/
def takesValue (f : Flag) : Bool := f == .output

end Flag

/-- The place where an argument stands. -/
inductive Scope where
  /-- Before the command. -/
  | program
  | generate
  | check
  | show
  | completions
  | help
  deriving DecidableEq, Repr

namespace Scope

/-- The options of a place. -/
def flags : Scope → List Flag
  | .program => [.verbose, .help, .version]
  | .generate => [.verbose, .help, .output, .dryRun]
  | .check => [.verbose, .help, .json]
  | .show => [.verbose, .help]
  | .completions => [.verbose, .help]
  | .help => []

/-- The command of a name. -/
def ofName? : String → Option Scope
  | "generate" => some .generate
  | "check" => some .check
  | "show" => some .show
  | "completions" => some .completions
  | "help" => some .help
  | _ => none

end Scope

/-- Why no further argument is read. -/
inductive Stop where
  /-- The arguments make no command line. -/
  | misuse
  /-- Help or the version is asked for, whatever comes next. -/
  | answer (command : Command)
  deriving DecidableEq, Repr

/-- The arguments read so far. -/
structure ArgState where
  scope : Scope
  /-- The options that were given at this place. -/
  given : List Flag
  /-- The directory that scripts go to. -/
  output : Option String
  /-- The paths and other words after the command. -/
  words : List String
  /-- Whether the value of the output option comes next. -/
  wantsValue : Bool
  /-- Whether the options have ended. -/
  ended : Bool

namespace ArgState

/-- Before the first argument. -/
def start : ArgState := ⟨.program, [], none, [], false, false⟩

variable (s : ArgState)

/-- Reads the value of the output option, which must not be empty. -/
def readValue (value : String) : Except Stop ArgState :=
  if value = "" then .error .misuse
  else .ok { s with output := some value, wantsValue := false }

/-- Reads an option without a value. -/
def readFlag (f : Flag) : Except Stop ArgState :=
  match f with
  | .help => .error (.answer .help)
  | .version => .error (.answer .version)
  | f =>
    if f ∈ s.given then .error .misuse
    else .ok { s with given := f :: s.given, wantsValue := f.takesValue }

/-- Reads an option by name, with the value behind an equals sign if there is one. -/
def readLong (name : String) (value : Option String) : Except Stop ArgState :=
  match s.scope.flags.find? (fun f => f.long == name), value with
  | none, _ => .error .misuse
  | some f, none => s.readFlag f
  | some f, some value =>
    if f.takesValue then do
      let s ← s.readFlag f
      s.readValue value
    else .error .misuse

/-- Reads options that share one dash. What follows the letter of an option with a value is the
value, with or without an equals sign in between. -/
def readShorts (s : ArgState) : List Char → Except Stop ArgState
  | [] => .ok s
  | c :: rest =>
    match s.scope.flags.find? fun f => f.short? == some c with
    | none => .error .misuse
    | some f =>
      match s.readFlag f with
      | .error stop => .error stop
      | .ok s =>
        if f.takesValue then
          match rest with
          | [] => .ok s
          | '=' :: value => s.readValue (String.ofList value)
          | value => s.readValue (String.ofList value)
        else s.readShorts rest

/-- Adds a word at the end. -/
def add (word : String) : ArgState := { s with words := s.words ++ [word] }

/-- Reads an argument that is no option: the command, or a word after it. -/
def readWord (word : String) : Except Stop ArgState :=
  match s.scope with
  | .program =>
    match Scope.ofName? word with
    | some scope =>
      if s.ended then .error .misuse else .ok { s with scope, given := [] }
    | none => .error .misuse
  | .generate | .check => if word = "" then .error .misuse else .ok (s.add word)
  | .show => if word = "" ∨ !s.words.isEmpty then .error .misuse else .ok (s.add word)
  | .completions =>
    if !s.words.isEmpty ∨ (Shell.ofName? word).isNone then .error .misuse else .ok (s.add word)
  | .help =>
    if !s.words.isEmpty ∨ (Scope.ofName? word).isNone then .error .misuse else .ok (s.add word)

/-- Reads one argument. Once the options have ended, and after `help`, every argument is a word. -/
def step (arg : String) : Except Stop ArgState :=
  match arg.toList with
  | '-' :: c :: rest =>
    if s.ended ∨ s.scope = .help then s.readWord arg
    else if s.wantsValue then .error .misuse
    else if c = '-' then
      if rest.isEmpty then .ok { s with ended := true }
      else
        match rest.dropWhile (· != '=') with
        | [] => s.readLong (String.ofList rest) none
        | _ :: value =>
          s.readLong (String.ofList (rest.takeWhile (· != '='))) (some (String.ofList value))
    else s.readShorts (c :: rest)
  | _ => if s.wantsValue then s.readValue arg else s.readWord arg

/-- The blueprints that are named, or the one of the default name. -/
def blueprints : List String :=
  if s.words.isEmpty then [Blueprint.fileName] else s.words

/-- The command, once all arguments are read. -/
def finish? : Option Command :=
  if s.wantsValue then none
  else
    match s.scope with
    | .program => none
    | .generate => some (.generate s.blueprints (s.output.getD ".") (.dryRun ∈ s.given))
    | .check => some (.check s.blueprints (.json ∈ s.given))
    | .show => some (.show (s.words.head?.getD Blueprint.fileName))
    | .completions => do
      let shell ← Shell.ofName? (← s.words.head?)
      some (.completions shell)
    | .help => some .help

end ArgState

end Cli

/-- The command of a list of arguments, if they make a command line. -/
def Command.parse? (args : List String) : Option Command :=
  match args.foldlM Cli.ArgState.step .start with
  | .ok s => s.finish?
  | .error .misuse => none
  | .error (.answer command) => some command

end GradleScript
