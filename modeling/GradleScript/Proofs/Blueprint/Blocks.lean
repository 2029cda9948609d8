import GradleScript.Proofs.Blueprint.WellFormed

/-!
# Finding blocks in a build script

A block is found by its name among the statements of one level, and the first block of a name is the
one that is found. What a blueprint says cannot get in the way: at the top level and in the
`android` block no names but fixed ones are written, and among the build types and the flavors the
first one of a name is found, after the release build type that every script has.

## Main definitions

* `Script.androidBlock`: the statements in a block of the `android` block
* `Script.FindsBlocks`: what is found in the script of a blueprint

## Main results

* `isSome_findBlock_iff`: the names under which a block is found
* `findBlock_map`: the block that is found among blocks that are made from a list
* `Blueprint.findsBlocks_script`: what is found in a script, whatever the blueprint
-/

namespace GradleScript

/-! ## Blocks of one level -/

/-- **A block is found** under the names of the blocks. -/
theorem isSome_findBlock_iff {name : String} {ss : List Statement} :
    (findBlock name ss).isSome = true ↔ name ∈ blockNames ss := by
  induction ss with
  | nil => simp [findBlock, blockNames]
  | cons s rest ih =>
    cases s with
    | line text => exact ih
    | keyValue key value => exact ih
    | block n children =>
      have names : blockNames (.block n children :: rest) = n :: blockNames rest := rfl
      rw [names, findBlock, List.mem_cons]
      split
      · next e => simp [e]
      · next ne => rw [ih, or_iff_right (Ne.symm ne)]

/-- **Among blocks that are made from a list**, the one of the first item with the name is found. -/
theorem findBlock_map {α : Type} {make : α → Statement} {nameOf : α → String}
    {childrenOf : α → List Statement} (h : ∀ a, make a = .block (nameOf a) (childrenOf a))
    (name : String) (as : List α) :
    findBlock name (as.map make) = (as.find? fun a => nameOf a == name).map childrenOf := by
  induction as with
  | nil => rfl
  | cons a rest ih =>
    rw [List.map_cons, h, findBlock]
    split
    · next e => rw [List.find?_cons_of_pos (by simpa using e), Option.map_some]
    · next ne => rw [List.find?_cons_of_neg (by simpa using ne), ih]

/-- The statements in a block of the `android` block; there are none without such a block. -/
def Script.androidBlock (script : Script) (name : String) : List Statement :=
  ((script.block? "android").bind (findBlock name)).getD []

/-- What is found in a script that is built from a blueprint. -/
structure Script.FindsBlocks (b : Blueprint) (script : Script) : Prop where
  /-- Two blocks are found at the top level. -/
  top (name : String) :
    (script.block? name).isSome = true ↔ name = "android" ∨ name = "dependencies"
  /-- Three blocks are always found in the `android` block, one if data binding is on, and one if
  there is a flavor or a dimension. -/
  android (name : String) : ((script.block? "android").bind (findBlock name)).isSome = true ↔
    name ∈ ["defaultConfig", "buildTypes", "compileOptions"] ∨
      name = "dataBinding" ∧ b.dataBinding = true ∨
      name = "productFlavors" ∧ (b.flavors ≠ [] ∨ b.flavorDimensions.toList ≠ [])
  /-- The release build type is the one that every script has. -/
  release : findBlock "release" (script.androidBlock "buildTypes") = some
    [.keyValue "minifyEnabled" "false",
      .keyValue "proguardFiles"
        "getDefaultProguardFile('proguard-android-optimize.txt'), 'proguard-rules.pro'"]
  /-- Any other build type is the first one that is declared under its name. -/
  buildTypes (name : String) (h : name ≠ "release") :
    findBlock name (script.androidBlock "buildTypes") =
      (b.buildTypes.find? fun t => t.name == name).map fun t => (Text.lines t.body).map .line
  /-- A flavor is the first one of its name, with its dimension if it has one. -/
  flavors (name : String) : findBlock name (script.androidBlock "productFlavors") =
    (b.flavors.find? fun f => f.name == name).map fun f =>
      f.dimension.elim [] fun d => [.keyValue "dimension" (doubleQuoted d)]

namespace Blueprint

variable (b : Blueprint)

/-- The script has a section on flavors if there is a flavor or a dimension. -/
theorem hasFlavorSection_iff :
    b.hasFlavorSection = true ↔ b.flavors ≠ [] ∨ b.flavorDimensions.toList ≠ [] := by
  simp [hasFlavorSection, NameSet.isEmpty]

theorem androidBlock_productFlavors :
    b.script.androidBlock "productFlavors" = b.flavors.map flavorBlock := by
  rw [Script.androidBlock, block?_android, Option.bind_some, findBlock_productFlavors]
  split
  · rfl
  · next none_declared =>
    -- without a section there are no flavors either
    rw [hasFlavorSection] at none_declared
    simp_all

theorem androidBlock_buildTypes :
    b.script.androidBlock "buildTypes" = releaseBlock :: b.buildTypes.map buildTypeBlock := by
  rw [Script.androidBlock, block?_android]
  simp [androidStatements, findBlock, defaultConfig, buildTypesBlock]

theorem mem_blockNames_androidStatements {name : String} :
    name ∈ blockNames b.androidStatements ↔
      name ∈ ["defaultConfig", "buildTypes", "compileOptions"] ∨
        name = "dataBinding" ∧ b.dataBinding = true ∨
        name = "productFlavors" ∧ (b.flavors ≠ [] ∨ b.flavorDimensions.toList ≠ []) := by
  rw [blockNames_androidStatements, ← hasFlavorSection_iff]
  cases b.dataBinding <;> cases b.hasFlavorSection <;> grind

theorem findBlock_release : findBlock releaseBuildType (b.script.androidBlock "buildTypes") =
    some [.keyValue "minifyEnabled" "false", .keyValue "proguardFiles" proguardFiles] := by
  rw [androidBlock_buildTypes, releaseBlock, findBlock, if_pos rfl]

theorem findBlock_buildType {name : String} (h : name ≠ releaseBuildType) :
    findBlock name (b.script.androidBlock "buildTypes") =
      (b.buildTypes.find? fun t => t.name == name).map fun t => (Text.lines t.body).map .line := by
  rw [androidBlock_buildTypes, releaseBlock, findBlock, if_neg (Ne.symm h)]
  exact findBlock_map (fun _ => rfl) name b.buildTypes

theorem findBlock_flavor (name : String) :
    findBlock name (b.script.androidBlock "productFlavors") =
      (b.flavors.find? fun f => f.name == name).map fun f =>
        f.dimension.elim [] fun d => [.keyValue "dimension" (doubleQuoted d)] := by
  have block (f : Flavor) : flavorBlock f = .block f.name
      (f.dimension.elim [] fun d => [.keyValue "dimension" (doubleQuoted d)]) := by
    rw [flavorBlock]
    cases f.dimension <;> rfl
  rw [androidBlock_productFlavors]
  exact findBlock_map block name b.flavors

/-- **What is found in a script**, whatever the blueprint: texts of plugins and extra lines are no
blocks, and the names of build types and flavors are looked up among their own kind only. -/
theorem findsBlocks_script : b.script.FindsBlocks b where
  top name := by
    rw [Script.block?, isSome_findBlock_iff, blockNames_statements]
    simp
  android name := by
    rw [block?_android, Option.bind_some, isSome_findBlock_iff, mem_blockNames_androidStatements]
  release := b.findBlock_release
  buildTypes _ h := b.findBlock_buildType h
  flavors := b.findBlock_flavor

end Blueprint

end GradleScript
