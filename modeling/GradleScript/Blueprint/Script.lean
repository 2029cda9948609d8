import GradleScript.Blueprint
import GradleScript.Statement
import GradleScript.Text.Lines

/-!
# The build script of a blueprint

The script applies the plugins, configures the module in an `android` block, lists what it depends
on and ends with the extra lines. Each block has a function of its own; a block that is left out
under some condition is a list with at most one statement, so that the blocks of a level are
listed in the order in which they are written.

## Main definitions

* `Blueprint.script`: the script of a blueprint
* `Blueprint.render`: its text
-/

namespace GradleScript

namespace Blueprint

/-- The version number of every generated configuration. -/
def versionCode : String := "1"

/-- The version name of every generated configuration. -/
def versionName : String := "1.0"

/-- The class that runs instrumented tests. -/
def testInstrumentationRunner : String := "androidx.test.runner.AndroidJUnitRunner"

/-- The build type that every script has. -/
def releaseBuildType : String := "release"

/-- The shrinker rules of the release build. -/
def proguardFiles : String :=
  "getDefaultProguardFile('proguard-android-optimize.txt'), 'proguard-rules.pro'"

/-- The version of Java that is compiled from and for. -/
def javaVersion : String := "1.8"

/-- The archives that every module depends on. -/
def fileTree : String := "fileTree(dir: 'libs', include: ['*.jar'])"

/-- The line that applies a plugin. -/
def applyPlugin (plugin : String) : Statement :=
  .keyValue "apply plugin:" (singleQuoted plugin)

/-- The identifier of the module, for an application only. -/
def applicationId (b : Blueprint) : List Statement :=
  if b.isApplication then [.keyValue "applicationId" (doubleQuoted b.package)] else []

/-- The configuration that all variants share. -/
def defaultConfig (b : Blueprint) : Statement :=
  .block "defaultConfig" (b.applicationId ++
    [.keyValue "minSdkVersion" (toString b.minSdk.toNat),
      .keyValue "targetSdkVersion" (toString b.targetSdk.toNat),
      .keyValue "versionCode" versionCode,
      .keyValue "versionName" (doubleQuoted versionName),
      .keyValue "multiDexEnabled" "true",
      .keyValue "testInstrumentationRunner" (doubleQuoted testInstrumentationRunner)])

/-- The release build type that every script has. -/
def releaseBlock : Statement :=
  .block releaseBuildType
    [.keyValue "minifyEnabled" "false", .keyValue "proguardFiles" proguardFiles]

/-- The block of a declared build type: one line for each line of its body. -/
def buildTypeBlock (t : BuildType) : Statement :=
  .block t.name ((Text.lines t.body).map .line)

/-- The build types: the generated release one, then the declared ones. A declared build type
named `release` is written as well. -/
def buildTypesBlock (b : Blueprint) : Statement :=
  .block "buildTypes" (releaseBlock :: b.buildTypes.map buildTypeBlock)

/-- The block that turns data binding on, if it is on. -/
def dataBindingBlock (b : Blueprint) : List Statement :=
  if b.dataBinding then [.block "dataBinding" [.line "enabled = true"]] else []

/-- The versions of Java. -/
def compileOptions : Statement :=
  .block "compileOptions"
    [.keyValue "targetCompatibility" javaVersion, .keyValue "sourceCompatibility" javaVersion]

/-- The list of the declared dimensions, if there are any. -/
def dimensionsLine (b : Blueprint) : List Statement :=
  if b.flavorDimensions.isEmpty then []
  else [.keyValue "flavorDimensions"
    (", ".intercalate (b.flavorDimensions.toList.map doubleQuoted))]

/-- The block of a flavor, with its dimension if it has one. -/
def flavorBlock (f : Flavor) : Statement :=
  .block f.name (f.dimension.toList.map fun d => .keyValue "dimension" (doubleQuoted d))

/-- The dimensions and the flavors; nothing when the blueprint declares neither. -/
def flavorSection (b : Blueprint) : List Statement :=
  if b.hasFlavorSection then
    b.dimensionsLine ++ [.block "productFlavors" (b.flavors.map flavorBlock)]
  else []

/-- What is inside the `android` block. -/
def androidStatements (b : Blueprint) : List Statement :=
  [.keyValue "compileSdkVersion" (toString b.compileSdk.toNat), b.defaultConfig,
    b.buildTypesBlock] ++ b.dataBindingBlock ++ [compileOptions] ++ b.flavorSection

/-- The line of a dependency on a module. -/
def moduleLine (d : ModuleDependency) : Statement :=
  .keyValue d.method ("project(':" ++ d.module ++ "')")

/-- The line of a dependency on a library. -/
def libraryLine (l : LibraryDependency) : Statement :=
  .keyValue l.method (doubleQuoted l.coordinate)

/-- What the module depends on: archives, modules, libraries. -/
def dependencyStatements (b : Blueprint) : List Statement :=
  .keyValue "implementation" fileTree ::
    (b.dependencies.map moduleLine ++ b.libraries.map libraryLine)

/-- The build script of a blueprint. -/
def script (b : Blueprint) : Script where
  statements :=
    b.plugins.toList.map applyPlugin ++
      [.block "android" b.androidStatements, .block "dependencies" b.dependencyStatements] ++
      b.extraLines.map .line

/-- The text of the build script of a blueprint. -/
def render (b : Blueprint) (indent : Indent) : String :=
  b.script.render indent

end Blueprint

end GradleScript
