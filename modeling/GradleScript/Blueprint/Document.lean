import GradleScript.Blueprint
import GradleScript.Schema

/-!
# Blueprints as documents

The form of a document that holds a blueprint, and the blueprint that it stands for.

## Main definitions

* `documentSchema`: the form of the document
* `Blueprint.ofDocument`: the blueprint of a document
-/

namespace GradleScript

/-- The form of the section on the module. -/
def moduleSchema : Schema :=
  .record "ModuleSection" <|
    .cons "package" (.text none) <|
    .cons "path" .path <|
    .cons "application" .flag <|
    .cons "data-binding" .flag .nil

/-- The form of the section on the platform levels. -/
def sdkSchema : Schema :=
  .record "SdkSection" <|
    .cons "compile" .level <|
    .cons "min" .level <|
    .cons "target" .level .nil

/-- The form of a build type, whose name is its key. -/
def buildTypeSchema : Schema :=
  .record "BuildTypeSection" <|
    .cons "body" (.text (some "")) .nil

/-- The form of a flavor. -/
def flavorSchema : Schema :=
  .record "Flavor" <|
    .cons "name" (.text none) <|
    .cons "dimension" .optionalText .nil

/-- The form of a dependency on a module. -/
def dependencySchema : Schema :=
  .record "ModuleDependency" <|
    .cons "method" (.text (some Blueprint.defaultMethod)) <|
    .cons "module" (.text none) .nil

/-- The form of a dependency on a library. -/
def librarySchema : Schema :=
  .record "LibraryDependency" <|
    .cons "method" (.text (some Blueprint.defaultMethod)) <|
    .cons "coordinate" (.text none) .nil

/-- The fields of the document. -/
def documentFields : Fields :=
  .cons "plugins" .names <|
  .cons "flavor-dimensions" .names <|
  .cons "extra-lines" (.list (.text none)) <|
  .cons "module" moduleSchema <|
  .cons "sdk" sdkSchema <|
  .cons "build-types" (.map buildTypeSchema) <|
  .cons "flavors" (.list flavorSchema) <|
  .cons "dependencies" (.list dependencySchema) <|
  .cons "libraries" (.list librarySchema) .nil

/-- The form of the document. -/
def documentSchema : Schema := .record "BlueprintFile" documentFields

/-- The build type of an entry of its section. -/
def BuildType.ofEntry : String × buildTypeSchema.Carrier → BuildType
  | (name, (body, ())) => ⟨name, body⟩

/-- The flavor of a section. -/
def Flavor.ofSection : flavorSchema.Carrier → Flavor
  | (name, dimension, ()) => ⟨name, dimension⟩

/-- The dependency on a module of a section. -/
def ModuleDependency.ofSection : dependencySchema.Carrier → ModuleDependency
  | (method, module, ()) => ⟨method, module⟩

/-- The dependency on a library of a section. -/
def LibraryDependency.ofSection : librarySchema.Carrier → LibraryDependency
  | (method, coordinate, ()) => ⟨method, coordinate⟩

/-- The blueprint that a document stands for. -/
def Blueprint.ofDocument : documentSchema.Carrier → Blueprint
  | (plugins, flavorDimensions, extraLines, (package, path, isApplication, dataBinding, ()),
      (compileSdk, minSdk, targetSdk, ()), buildTypes, flavors, dependencies, libraries, ()) =>
    { package
      path
      compileSdk
      minSdk
      targetSdk
      isApplication
      plugins
      buildTypes := List.map BuildType.ofEntry buildTypes
      dataBinding
      flavorDimensions
      flavors := List.map Flavor.ofSection flavors
      dependencies := List.map ModuleDependency.ofSection dependencies
      libraries := List.map LibraryDependency.ofSection libraries
      extraLines }

end GradleScript
