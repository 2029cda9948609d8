import GradleScript.NameSet
import GradleScript.Path

/-!
# Module blueprints

A blueprint says what the build script of one module of an Android project is made of.

## Main definitions

* `Blueprint`: the description of one module
* `Blueprint.new`: a library module with nothing but its names and levels
* `Blueprint.scriptPath`: where the module's build script goes
* `Blueprint.same`: when two blueprints describe the same module
-/

namespace GradleScript

/-- A level of the Android platform. -/
abbrev ApiLevel := UInt32

/-- A build type besides the generated release one, with the text of its block. -/
structure BuildType where
  name : String
  body : String
  deriving DecidableEq, Repr

/-- A product flavor and the dimension that it belongs to, if any. -/
structure Flavor where
  name : String
  dimension : Option String
  deriving DecidableEq, Repr

/-- A dependency on another module of the project. -/
structure ModuleDependency where
  method : String
  module : String
  deriving DecidableEq, Repr

/-- A dependency on a published library. -/
structure LibraryDependency where
  method : String
  coordinate : String
  deriving DecidableEq, Repr

/-- The description of one module. -/
@[ext] structure Blueprint where
  /-- The package that the module's code is in. -/
  package : String
  /-- The directory of the module, from the root of the project. -/
  path : String
  compileSdk : ApiLevel
  minSdk : ApiLevel
  targetSdk : ApiLevel
  /-- An application has an identifier, a library has none. -/
  isApplication : Bool
  plugins : NameSet
  buildTypes : List BuildType
  dataBinding : Bool
  flavorDimensions : NameSet
  flavors : List Flavor
  dependencies : List ModuleDependency
  libraries : List LibraryDependency
  /-- Lines that close the script. -/
  extraLines : List String
  deriving DecidableEq, Repr

namespace Blueprint

/-- The name that the file of a blueprint has by default. -/
def fileName : String := "module.toml"

/-- The name of the build script in the directory of its module. -/
def scriptFileName : String := "build.gradle"

/-- How a dependency is declared unless it says otherwise. -/
def defaultMethod : String := "implementation"

/-- A library module with nothing but its names and levels. -/
def new (package path : String) (compileSdk minSdk targetSdk : ApiLevel) : Blueprint where
  package
  path
  compileSdk
  minSdk
  targetSdk
  isApplication := false
  plugins := ∅
  buildTypes := []
  dataBinding := false
  flavorDimensions := ∅
  flavors := []
  dependencies := []
  libraries := []
  extraLines := []

/-- Where the build script of the module goes, from the root of the project. -/
def scriptPath (b : Blueprint) : String :=
  Path.join b.path scriptFileName

/-- Whether the build script has a section on flavors. -/
def hasFlavorSection (b : Blueprint) : Bool :=
  !b.flavors.isEmpty || !b.flavorDimensions.isEmpty

/-- Whether two blueprints describe the same module: paths may differ in their spelling, plugins
and dimensions in their order; everything else agrees. -/
def same (a b : Blueprint) : Bool :=
  a.package == b.package && Path.same a.path b.path && a.compileSdk == b.compileSdk &&
    a.minSdk == b.minSdk && a.targetSdk == b.targetSdk && a.isApplication == b.isApplication &&
    a.plugins.same b.plugins && a.buildTypes == b.buildTypes && a.dataBinding == b.dataBinding &&
    a.flavorDimensions.same b.flavorDimensions && a.flavors == b.flavors &&
    a.dependencies == b.dependencies && a.libraries == b.libraries && a.extraLines == b.extraLines

end Blueprint

end GradleScript
