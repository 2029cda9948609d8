import GradleScript.Blueprint.Edit
import GradleScript.Blueprint.Script
import GradleScript.Proofs.Script.Place

/-!
# What an edit puts into the build script

An edit adds what it says in one place of the script and leaves everything else as it is. The place
is a gap in the lists that the script is made of, so that the text of the script is cut in two
there, and the new lines are between the two halves.

## Main definitions

* `Blueprint.inAndroid`, `Blueprint.inDependencies`: the gaps in the two blocks of a script
* `Blueprint.pluginPlace`, `Blueprint.buildTypePlace`, `Blueprint.applicationIdPlace`,
  `Blueprint.dataBindingPlace`, `Blueprint.dependencyPlace`, `Blueprint.libraryPlace`: where an
  edit adds to the script

## Main results

* `Blueprint.render_addExtraLine`: an extra line goes to the end of the text
* `Blueprint.insertion_inAndroid`, `Blueprint.insertion_inDependencies`: what is put into a block is
  one insertion into the script
* `Blueprint.edit_inserts`: what each edit does to the text
-/

namespace GradleScript.Blueprint

open Statement

variable (b : Blueprint)

/-! ## The places -/

/-- The gap between the plugins and the `android` block. -/
def pluginPlace : Place :=
  .gap (b.plugins.toList.map applyPlugin)
    (.block "android" b.androidStatements :: .block "dependencies" b.dependencyStatements ::
      b.extraLines.map .line)

/-- A gap in the `android` block. -/
def inAndroid (place : Place) : Place :=
  .inside (b.plugins.toList.map applyPlugin) "android" place
    (.block "dependencies" b.dependencyStatements :: b.extraLines.map .line)

/-- A gap in the block of the dependencies. -/
def inDependencies (place : Place) : Place :=
  .inside (b.plugins.toList.map applyPlugin ++ [.block "android" b.androidStatements])
    "dependencies" place (b.extraLines.map .line)

/-- The line that starts the `android` block. -/
def compileSdkLine : Statement :=
  .keyValue "compileSdkVersion" (toString b.compileSdk.toNat)

/-- The configuration of a library, which that of an application has as well. -/
def libraryConfig : List Statement :=
  [.keyValue "minSdkVersion" (toString b.minSdk.toNat),
    .keyValue "targetSdkVersion" (toString b.targetSdk.toNat),
    .keyValue "versionCode" versionCode,
    .keyValue "versionName" (doubleQuoted versionName),
    .keyValue "multiDexEnabled" "true",
    .keyValue "testInstrumentationRunner" (doubleQuoted testInstrumentationRunner)]

theorem defaultConfig_eq :
    b.defaultConfig = .block "defaultConfig" (b.applicationId ++ b.libraryConfig) := rfl

theorem androidStatements_eq : b.androidStatements =
    b.compileSdkLine :: b.defaultConfig :: b.buildTypesBlock ::
      (b.dataBindingBlock ++ compileOptions :: b.flavorSection) := by
  simp [androidStatements, compileSdkLine]

/-- The gap in front of the configuration of a library. -/
def applicationIdPlace : Place :=
  b.inAndroid <| .inside [b.compileSdkLine] "defaultConfig" (.gap [] b.libraryConfig)
    (b.buildTypesBlock :: b.dataBindingBlock ++ compileOptions :: b.flavorSection)

/-- The gap behind the last build type. -/
def buildTypePlace : Place :=
  b.inAndroid <| .inside [b.compileSdkLine, b.defaultConfig] "buildTypes"
    (.gap (releaseBlock :: b.buildTypes.map buildTypeBlock) [])
    (b.dataBindingBlock ++ compileOptions :: b.flavorSection)

/-- The gap in front of the versions of Java, for a script without data binding. -/
def dataBindingPlace : Place :=
  b.inAndroid <| .gap [b.compileSdkLine, b.defaultConfig, b.buildTypesBlock]
    (compileOptions :: b.flavorSection)

/-- The gap behind the last module and in front of the first library. -/
def dependencyPlace : Place :=
  b.inDependencies <| .gap (.keyValue "implementation" fileTree :: b.dependencies.map moduleLine)
    (b.libraries.map libraryLine)

/-- The gap behind the last dependency. -/
def libraryPlace : Place :=
  b.inDependencies <| .gap b.dependencyStatements []

/-! ## What is put there -/

variable {b}

/-- What is put into the `android` block is one insertion into the script. -/
theorem insertion_inAndroid {c : Blueprint} {place : Place} {s : Statement}
    (occupied : place.Occupied) (plugins : c.plugins = b.plugins)
    (dependencies : c.dependencyStatements = b.dependencyStatements)
    (extraLines : c.extraLines = b.extraLines) (before : b.androidStatements = place.fill [])
    (after : c.androidStatements = place.fill [s]) :
    Insertion b.script c.script (b.inAndroid place) (place.depth + 1) s := by
  refine Insertion.of_fill occupied (by simp [inAndroid, Place.linesBelow]) ?_ ?_
  · simp [script, inAndroid, Place.fill, before]
  · simp [script, inAndroid, Place.fill, after, plugins, dependencies, extraLines]

/-- What is put into the block of the dependencies is one insertion into the script. -/
theorem insertion_inDependencies {c : Blueprint} {place : Place} {s : Statement}
    (occupied : place.Occupied) (plugins : c.plugins = b.plugins)
    (android : c.androidStatements = b.androidStatements) (extraLines : c.extraLines = b.extraLines)
    (before : b.dependencyStatements = place.fill [])
    (after : c.dependencyStatements = place.fill [s]) :
    Insertion b.script c.script (b.inDependencies place) (place.depth + 1) s := by
  refine Insertion.of_fill occupied (by simp [inDependencies, Place.linesBelow]) ?_ ?_
  · simp [script, inDependencies, Place.fill, before]
  · simp [script, inDependencies, Place.fill, after, plugins, android, extraLines]

/-- An extra line goes to the end, where no newline follows. -/
theorem render_addExtraLine (line : String) (indent : Indent) :
    (b.edit (.addExtraLine line)).render indent = b.render indent ++ "\n" ++ line := by
  have extraLines : (b.edit (.addExtraLine line)).extraLines = b.extraLines ++ [line] := rfl
  have statements : (b.edit (.addExtraLine line)).script.statements =
      b.script.statements ++ [.line line] := by
    rw [script, extraLines, List.map_append, ← List.append_assoc]
    rfl
  have ne : renderAll indent 0 b.script.statements ≠ [] := by simp [renderAll_eq_map, script]
  rw [render, Script.render, statements, renderAll_eq_map, List.map_append, ← renderAll_eq_map,
    String.intercalate_append_of_ne_nil ne (by simp)]
  simp [render, Script.render, Statement.render]

/-- A plugin that is applied already is not applied again. -/
theorem render_addPlugin_of_mem {plugin : String} (h : plugin ∈ b.plugins) (indent : Indent) :
    (b.edit (.addPlugin plugin)).render indent = b.render indent := by
  rw [edit, NameSet.insert_of_mem h]

/-- A new plugin goes between the other ones and the `android` block. -/
theorem insertion_addPlugin {plugin : String} (h : plugin ∉ b.plugins) :
    Insertion b.script (b.edit (.addPlugin plugin)).script b.pluginPlace 0
      (applyPlugin plugin) := by
  have plugins : (b.edit (.addPlugin plugin)).plugins.toList = b.plugins.toList ++ [plugin] := by
    rw [edit, NameSet.toList_insert, if_neg h]
  refine Insertion.of_fill ?_ ?_ ?_ ?_
  · simp [pluginPlace, Place.Occupied]
  · simp [pluginPlace, Place.linesBelow, renderAll]
  · simp [script, pluginPlace, Place.fill]
  · rw [script, plugins, List.map_append, List.append_assoc]
    rfl

/-- A build type goes behind the last one. -/
theorem insertion_addBuildType (t : BuildType) :
    Insertion b.script (b.edit (.addBuildType t)).script b.buildTypePlace 2 (buildTypeBlock t) := by
  have types : (b.edit (.addBuildType t)).buildTypesBlock = .block "buildTypes"
      (releaseBlock :: b.buildTypes.map buildTypeBlock ++ [buildTypeBlock t]) := by
    simp [buildTypesBlock, edit]
  refine insertion_inAndroid ?_ rfl rfl rfl ?_ ?_
  · simp [Place.Occupied]
  · rw [androidStatements_eq, Place.fill, Place.fill, List.append_nil, List.append_nil]
    rfl
  · rw [androidStatements_eq, types, Place.fill, Place.fill, List.append_nil]
    rfl

/-- The identifier of an application goes in front of its configuration. -/
theorem insertion_application (h : b.isApplication = false) :
    Insertion b.script (b.edit .application).script b.applicationIdPlace 2
      (.keyValue "applicationId" (doubleQuoted b.package)) := by
  have config : b.defaultConfig = .block "defaultConfig" b.libraryConfig := by
    rw [defaultConfig_eq, applicationId, h]
    rfl
  refine insertion_inAndroid ?_ rfl rfl rfl ?_ ?_
  · simp [Place.Occupied, libraryConfig]
  · rw [androidStatements_eq, config, Place.fill, Place.fill, List.append_nil, List.nil_append]
    rfl
  · rw [androidStatements_eq, Place.fill, Place.fill, List.nil_append]
    rfl

/-- Data binding goes in front of the versions of Java. -/
theorem insertion_setDataBinding (h : b.dataBinding = false) :
    Insertion b.script (b.edit (.setDataBinding true)).script b.dataBindingPlace 1
      (.block "dataBinding" [.line "enabled = true"]) := by
  have noBlock : b.dataBindingBlock = [] := by simp [dataBindingBlock, h]
  refine insertion_inAndroid ?_ rfl rfl rfl ?_ ?_
  · simp [Place.Occupied]
  · rw [androidStatements_eq, noBlock, Place.fill, List.append_nil]
    rfl
  · rw [androidStatements_eq, Place.fill]
    rfl

/-- A module goes behind the last one and in front of the first library. -/
theorem insertion_addDependency (d : ModuleDependency) :
    Insertion b.script (b.edit (.addDependency d)).script b.dependencyPlace 1 (moduleLine d) := by
  refine insertion_inDependencies ?_ rfl rfl rfl ?_ ?_
  · simp [Place.Occupied]
  · simp [dependencyStatements, Place.fill]
  · simp [dependencyStatements, edit, Place.fill]

/-- A library goes behind the last dependency. -/
theorem insertion_addLibrary (l : LibraryDependency) :
    Insertion b.script (b.edit (.addLibrary l)).script b.libraryPlace 1 (libraryLine l) := by
  refine insertion_inDependencies ?_ rfl rfl rfl ?_ ?_
  · simp [Place.Occupied, dependencyStatements]
  · simp [Place.fill]
  · simp [dependencyStatements, edit, Place.fill]

variable (b) in
/-- **Each edit adds its own text in one place and changes nothing else.** -/
theorem edit_inserts :
    (∀ line indent, (b.edit (.addExtraLine line)).render indent =
      b.render indent ++ "\n" ++ line) ∧
    (∀ plugin ∈ b.plugins, ∀ indent,
      (b.edit (.addPlugin plugin)).render indent = b.render indent) ∧
    (∀ plugin ∉ b.plugins, Insertion b.script (b.edit (.addPlugin plugin)).script
      b.pluginPlace 0 (applyPlugin plugin)) ∧
    (∀ t, Insertion b.script (b.edit (.addBuildType t)).script
      b.buildTypePlace 2 (buildTypeBlock t)) ∧
    (∀ d, Insertion b.script (b.edit (.addDependency d)).script
      b.dependencyPlace 1 (moduleLine d)) ∧
    (∀ l, Insertion b.script (b.edit (.addLibrary l)).script
      b.libraryPlace 1 (libraryLine l)) ∧
    (b.isApplication = false → Insertion b.script (b.edit .application).script
      b.applicationIdPlace 2 (.keyValue "applicationId" (doubleQuoted b.package))) ∧
    (b.dataBinding = false → Insertion b.script (b.edit (.setDataBinding true)).script
      b.dataBindingPlace 1 (.block "dataBinding" [.line "enabled = true"])) :=
  ⟨render_addExtraLine, fun _ => render_addPlugin_of_mem, fun _ => insertion_addPlugin,
    insertion_addBuildType, insertion_addDependency, insertion_addLibrary, insertion_application,
    insertion_setDataBinding⟩

/-- A library with one plugin and an extra line of two lines. -/
def pluginLibrary : Blueprint :=
  (new "core" "libs/core" 30 21 31).editAll
    [.addPlugin "com.android.library", .addExtraLine "// one\n// two"]

/-- A plugin that is there already leaves the text as it is. Another one goes behind it, and the
identifier of the application that the library becomes goes into the nested block. -/
theorem edit_inserts_pluginLibrary :
    (pluginLibrary.edit (.addPlugin "com.android.library")).render .standard =
        pluginLibrary.render .standard ∧
      (∃ below, pluginLibrary.render .standard =
          "apply plugin: 'com.android.library'\n" ++ below ∧
        (pluginLibrary.edit (.addPlugin "kotlin-android")).render .standard =
          "apply plugin: 'com.android.library'\n" ++ "apply plugin: 'kotlin-android'\n" ++ below) ∧
      (∃ below, pluginLibrary.render .standard =
          "apply plugin: 'com.android.library'\nandroid ".push '{' ++
            "\n    compileSdkVersion 30\n    defaultConfig ".push '{' ++ "\n" ++ below ∧
        (pluginLibrary.edit .application).render .standard =
          "apply plugin: 'com.android.library'\nandroid ".push '{' ++
            "\n    compileSdkVersion 30\n    defaultConfig ".push '{' ++ "\n" ++
            "        applicationId \"core\"\n" ++ below) ∧
      (∃ above below, pluginLibrary.render .standard = above ++ below ∧
        (pluginLibrary.edit (.setDataBinding true)).render .standard =
          above ++ ("    dataBinding ".push '{' ++ "\n        enabled = true\n    ".push '}' ++
            "\n") ++ below) := by
  obtain ⟨-, present, absent, -, -, -, application, dataBinding⟩ := edit_inserts pluginLibrary
  have plugin := absent "kotlin-android" (by decide)
  exact ⟨present _ (by decide) _, ⟨_, plugin.old_text _, plugin.new_text _⟩,
    ⟨_, (application rfl).old_text _, (application rfl).new_text _⟩,
    _, _, (dataBinding rfl).old_text _, (dataBinding rfl).new_text _⟩

end GradleScript.Blueprint
