import GradleScript.Proofs.Blueprint.Recovery

/-!
# What a build script depends on

A build script has a part for each field of its blueprint but the path. A part that is left out says
that there is nothing to write, the package is written for an application only, and of a body only
the lines are. So the script of a blueprint and its content determine each other.

## Main results

* `Blueprint.parts_of_script_eq`: the parts of a script
* `Blueprint.content_of_dependencyStatements_eq`: the dependencies of a script
* `Blueprint.script_eq_of_sameContent`: blueprints with the same content have the same script
* `Blueprint.script_eq_iff_sameContent`: they have it only then, if dimensions can be told apart
-/

namespace GradleScript.Blueprint

open Statement

variable {a b : Blueprint}

/-! ## From the script to the content -/

/-- The lists in a script fall into its parts. -/
theorem parts_of_script_eq (h : a.script = b.script) :
    a.plugins.toList = b.plugins.toList ∧ a.androidStatements = b.androidStatements ∧
      a.dependencyStatements = b.dependencyStatements ∧ a.extraLines = b.extraLines := by
  have statements : a.script.statements = b.script.statements := congrArg _ h
  simp only [script, List.append_assoc, List.cons_append, List.nil_append] at statements
  have line (c : Blueprint) : ∀ s ∈ c.plugins.toList.map applyPlugin, ∃ p, s = applyPlugin p := by
    intro s hs
    obtain ⟨p, -, rfl⟩ := List.mem_map.1 hs
    exact ⟨p, rfl⟩
  obtain ⟨plugins, android, rest⟩ := append_cons_inj_of_run (line a) (line b)
    (by simp [applyPlugin]) (by simp [applyPlugin]) statements
  simp only [List.cons.injEq, Statement.block.injEq, true_and] at android rest
  have plugin : Function.Injective applyPlugin := by
    intro p q e
    exact singleQuoted_inj (Statement.keyValue.inj e).2
  have extra : Function.Injective Statement.line := fun _ _ => Statement.line.inj
  exact ⟨(List.map_inj_right plugin).1 plugins, android, rest.1,
    (List.map_inj_right extra).1 rest.2⟩

theorem moduleLine_injective : Function.Injective moduleLine := by
  intro d e h
  obtain ⟨method, value⟩ := Statement.keyValue.inj h
  rw [String.append_left_inj, String.append_right_inj] at value
  cases d
  cases e
  exact (ModuleDependency.mk.injEq ..).mpr ⟨method, value⟩

theorem libraryLine_injective : Function.Injective libraryLine := by
  intro l k h
  obtain ⟨method, value⟩ := Statement.keyValue.inj h
  cases l
  cases k
  exact (LibraryDependency.mk.injEq ..).mpr ⟨method, doubleQuoted_inj value⟩

/-- The value of a library starts with a quotation mark, and that of a module does not. -/
theorem moduleLine_ne_libraryLine (d : ModuleDependency) (l : LibraryDependency) :
    moduleLine d ≠ libraryLine l := by
  intro h
  have value := congrArg String.toList (Statement.keyValue.inj h).2
  simp [doubleQuoted] at value

/-- The block of the dependencies says which they are, whatever they are called: the modules end
where the first library stands. -/
theorem content_of_dependencyStatements_eq (h : a.dependencyStatements = b.dependencyStatements) :
    a.dependencies = b.dependencies ∧ a.libraries = b.libraries := by
  have modules (c : Blueprint) : ∀ s ∈ c.dependencies.map moduleLine, ∃ d, s = moduleLine d := by
    intro s hs
    obtain ⟨d, -, rfl⟩ := List.mem_map.1 hs
    exact ⟨d, rfl⟩
  have libraries (c : Blueprint) :
      ∀ s ∈ (c.libraries.map libraryLine).head?, ¬ ∃ d, s = moduleLine d := by
    rintro s hs ⟨d, e⟩
    obtain ⟨l, -, rfl⟩ := List.mem_map.1 (List.mem_of_mem_head? hs)
    exact moduleLine_ne_libraryLine d l e.symm
  obtain ⟨e, e'⟩ := append_inj_of_run (modules a) (modules b) (libraries a) (libraries b)
    (List.cons.inj h).2
  exact ⟨(List.map_inj_right moduleLine_injective).1 e,
    (List.map_inj_right libraryLine_injective).1 e'⟩

/-- A script says everything about the content of its blueprint. The list of the dimensions says
which they are unless there is a quotation mark in one of them. -/
theorem sameContent_of_script_eq (ha : ∀ d ∈ a.flavorDimensions, '"' ∉ d.toList)
    (hb : ∀ d ∈ b.flavorDimensions, '"' ∉ d.toList) (h : a.script = b.script) :
    a.SameContent b := by
  obtain ⟨plugins, android, dependencies, extraLines⟩ := parts_of_script_eq h
  obtain ⟨compileSdk, config, types, dataBinding, section_eq⟩ :=
    content_of_flatAll_androidStatements_eq (congrArg flatAll android)
  obtain ⟨isApplication, package, minSdk, targetSdk⟩ := content_of_flat_defaultConfig_eq config
  obtain ⟨flavorDimensions, flavors⟩ := content_of_flat_flavorSection_eq ha hb section_eq
  obtain ⟨dependencies, libraries⟩ := content_of_dependencyStatements_eq dependencies
  have buildTypes := content_of_flat_buildTypesBlock_eq types
  exact ⟨compileSdk, minSdk, targetSdk, isApplication, package, NameSet.ext plugins, buildTypes,
    dataBinding, flavorDimensions, flavors, dependencies, libraries, extraLines⟩

/-! ## From the content to the script -/

theorem SameContent.applicationId_eq (h : a.SameContent b) :
    a.applicationId = b.applicationId := by
  rw [applicationId, applicationId, ← h.isApplication]
  split
  · next app => rw [h.package app]
  · rfl

/-- A build type is written by its name and the lines of its body. -/
theorem SameContent.buildTypesBlock_eq (h : a.SameContent b) :
    a.buildTypesBlock = b.buildTypesBlock := by
  have written (c : Blueprint) : c.buildTypes.map buildTypeBlock =
      (c.buildTypes.map fun t => (t.name, Text.lines t.body)).map
        fun t => .block t.1 (t.2.map .line) := by
    rw [List.map_map]
    rfl
  rw [buildTypesBlock, buildTypesBlock, written a, written b, h.buildTypes]

theorem SameContent.androidStatements_eq (h : a.SameContent b) :
    a.androidStatements = b.androidStatements := by
  rw [androidStatements, androidStatements, defaultConfig, defaultConfig, h.applicationId_eq,
    h.buildTypesBlock_eq, h.compileSdk, h.minSdk, h.targetSdk, dataBindingBlock, dataBindingBlock,
    h.dataBinding, flavorSection, flavorSection, hasFlavorSection, hasFlavorSection, dimensionsLine,
    dimensionsLine, h.flavorDimensions, h.flavors]

/-- Nothing but the content of a blueprint shows in its script: not the path, not the package of a
library, and not how the lines of a body end. -/
theorem script_eq_of_sameContent (h : a.SameContent b) : a.script = b.script := by
  rw [script, script, h.plugins, h.androidStatements_eq, dependencyStatements,
    dependencyStatements, h.dependencies, h.libraries, h.extraLines]

/-- **The script of a blueprint and its content determine each other.** The one thing that the
script may not say is where a dimension with a quotation mark in it ends. -/
theorem script_eq_iff_sameContent (ha : ∀ d ∈ a.flavorDimensions, '"' ∉ d.toList)
    (hb : ∀ d ∈ b.flavorDimensions, '"' ∉ d.toList) : a.script = b.script ↔ a.SameContent b :=
  ⟨sameContent_of_script_eq ha hb, script_eq_of_sameContent⟩

/-- A library with a method of two words, and with a coordinate that reads like a module. -/
def twoWords (package path body : String) : Blueprint :=
  (new package path 30 21 31).editAll
    [.addPlugin "com.android.library", .addBuildType ⟨"qa", body⟩, .addDimension "tier",
      .addFlavor ⟨"paid", some "price"⟩, .addDependency ⟨"api project(':a')", "b"⟩,
      .addLibrary ⟨"api", "project(':a')"⟩]

/-- The package, the path and the ends of lines do not show in the script; an empty line does. -/
theorem script_eq_iff_sameContent_twoWords :
    (twoWords "core" "libs/core" "x\r\ny").script = (twoWords "app" "/app" "x\ny\n").script ∧
      (twoWords "core" "libs/core" "x\r\ny").script ≠
        (twoWords "core" "libs/core" "x\n\ny").script := by
  have unquoted (package path body : String) :
      ∀ d ∈ (twoWords package path body).flavorDimensions, '"' ∉ d.toList := by
    have declared : (twoWords package path body).flavorDimensions = .ofList ["tier"] := rfl
    rw [declared]
    decide
  have criterion (package path body package' path' body' : String) :=
    script_eq_iff_sameContent (unquoted package path body) (unquoted package' path' body')
  constructor
  · exact (criterion ..).2
      ⟨rfl, rfl, rfl, rfl, nofun, rfl, by decide, rfl, rfl, rfl, rfl, rfl, rfl⟩
  · exact fun h => absurd ((criterion ..).1 h).buildTypes (by decide)

end GradleScript.Blueprint
