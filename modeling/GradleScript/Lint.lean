import GradleScript.Blueprint
import GradleScript.Blueprint.Script
import GradleScript.Diagnostic

/-!
# Lints

A lint looks for one kind of defect in a blueprint. Lints only report; they change no script.

## Main definitions

* `Finding`: the defects, with what each diagnostic says
* `Lint.findings`: what a lint finds in a blueprint
* `Lint.check`: the pass of a lint over a blueprint
* `Blueprint.diagnose`, `Blueprint.lint`: the diagnostics of some lints and of all of them
-/

namespace GradleScript

/-- The lints. -/
inductive Lint where
  | duplicateFlavor
  | duplicateRelease
  | sdkRange
  | undeclaredDimension
  deriving DecidableEq, Repr

/-- A defect of a blueprint. -/
inductive Finding where
  /-- Several flavors have this name. -/
  | duplicateFlavor (name : String)
  /-- A build type has the name of the generated one. -/
  | duplicateRelease
  /-- The target level is above the level that is compiled against. -/
  | sdkRange (target compile : ApiLevel)
  /-- A flavor belongs to a dimension that is not declared. -/
  | undeclaredDimension (flavor dimension : String)
  deriving DecidableEq, Repr

namespace Lint

/-- The name of a lint. -/
def name : Lint → String
  | .duplicateFlavor => "duplicate-flavor"
  | .duplicateRelease => "duplicate-release"
  | .sdkRange => "sdk-range"
  | .undeclaredDimension => "undeclared-dimension"

/-- All lints, in the order in which they run. -/
def all : List Lint := [.duplicateFlavor, .duplicateRelease, .sdkRange, .undeclaredDimension]

/-- The lint of a name. -/
def ofName? (name : String) : Option Lint :=
  all.find? fun l => l.name == name

end Lint

namespace Finding

/-- The lint that reports a defect. -/
def lint : Finding → Lint
  | .duplicateFlavor _ => .duplicateFlavor
  | .duplicateRelease => .duplicateRelease
  | .sdkRange .. => .sdkRange
  | .undeclaredDimension .. => .undeclaredDimension

/-- A flavor that is declared twice makes the script unusable; the other defects do not. -/
def severity : Finding → Severity
  | .duplicateFlavor _ => .error
  | _ => .warning

/-- What is said about a defect. -/
def message : Finding → String
  | .duplicateFlavor name => "flavor '" ++ name ++ "' is declared more than once"
  | .duplicateRelease => "build type 'release' is emitted after the generated 'release' block"
  | .sdkRange target compile =>
    "target sdk " ++ toString target.toNat ++ " is above compile sdk " ++ toString compile.toNat
  | .undeclaredDimension flavor dimension =>
    "flavor '" ++ flavor ++ "' uses undeclared dimension '" ++ dimension ++ "'"

/-- The key that a defect is at. -/
def location : Finding → String
  | .duplicateFlavor _ => "flavors"
  | .duplicateRelease => "build-types.release"
  | .sdkRange .. => "sdk.target"
  | .undeclaredDimension .. => "flavor-dimensions"

/-- The diagnostic of a defect. -/
def diagnostic (f : Finding) : Diagnostic where
  severity := f.severity
  lint := f.lint.name
  message := f.message
  location := some f.location

end Finding

/-- The names of a list at their second mention: each repeated name once, in the order in which
the repetitions begin. The names that stand before the list are given too. -/
def secondMentions (before : List String) : List String → List String
  | [] => []
  | name :: rest =>
    if before.count name = 1 then name :: secondMentions (name :: before) rest
    else secondMentions (name :: before) rest

/-- The defect of a flavor whose dimension is not declared. -/
def Flavor.undeclared? (declared : NameSet) (f : Flavor) : Option Finding :=
  match f.dimension with
  | none => none
  | some d => if d ∈ declared then none else some (.undeclaredDimension f.name d)

/-- What a lint finds in a blueprint. -/
def Lint.findings (b : Blueprint) : Lint → List Finding
  | .duplicateFlavor => (secondMentions [] (b.flavors.map (·.name))).map .duplicateFlavor
  | .duplicateRelease =>
    if b.buildTypes.any (·.name == Blueprint.releaseBuildType) then [.duplicateRelease] else []
  | .sdkRange =>
    if b.targetSdk > b.compileSdk then [.sdkRange b.targetSdk b.compileSdk] else []
  | .undeclaredDimension => b.flavors.filterMap (Flavor.undeclared? b.flavorDimensions)

/-- How far the lint on flavors has come: the names that it has met, those that it has reported, and
the diagnostics so far. -/
structure FlavorScan where
  met : NameSet
  reported : NameSet
  diagnostics : List Diagnostic

/-- Looks at one more flavor. Its name is reported if it has been met before, unless it has been
reported as well. -/
def FlavorScan.step (scan : FlavorScan) (f : Flavor) : FlavorScan :=
  if f.name ∉ scan.met then { scan with met := scan.met.insert f.name }
  else if f.name ∈ scan.reported then scan
  else
    { scan with
      reported := scan.reported.insert f.name
      diagnostics := scan.diagnostics ++ [(Finding.duplicateFlavor f.name).diagnostic] }

/-- Adds the diagnostics of a lint to earlier ones, in one pass. -/
def Lint.check (b : Blueprint) (earlier : List Diagnostic) : Lint → List Diagnostic
  | .duplicateFlavor => (b.flavors.foldl FlavorScan.step ⟨∅, ∅, earlier⟩).diagnostics
  | .duplicateRelease =>
    if b.buildTypes.any (·.name == Blueprint.releaseBuildType) then
      earlier ++ [Finding.duplicateRelease.diagnostic]
    else earlier
  | .sdkRange =>
    if b.targetSdk > b.compileSdk then
      earlier ++ [(Finding.sdkRange b.targetSdk b.compileSdk).diagnostic]
    else earlier
  | .undeclaredDimension =>
    b.flavors.foldl (fun ds f =>
      match f.undeclared? b.flavorDimensions with
      | none => ds
      | some finding => ds ++ [finding.diagnostic]) earlier

namespace Blueprint

/-- What several lints find, one lint after the other. -/
def findings (b : Blueprint) (lints : List Lint) : List Finding :=
  lints.flatMap (Lint.findings b)

/-- The diagnostics of several lints, one lint after the other. -/
def diagnose (b : Blueprint) (lints : List Lint) : List Diagnostic :=
  (b.findings lints).map (·.diagnostic)

/-- The diagnostics of all lints. -/
def lint (b : Blueprint) : List Diagnostic :=
  b.diagnose Lint.all

end Blueprint

/-- How many diagnostics are errors. -/
def errorCount (ds : List Diagnostic) : Nat :=
  ds.countP (·.isError)

end GradleScript
