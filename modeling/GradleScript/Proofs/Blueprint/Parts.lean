import GradleScript.Blueprint.Script

/-!
# The statements of a build script, by kind

At each level of a build script there are statements of a few kinds, and some of them only under
conditions on the blueprint. What holds of each kind holds of all statements of the level.

## Main results

* `Blueprint.flavorSection_eq_or`: the two forms of the section on flavors
* `Blueprint.forall_mem_statements`: the kinds of statements at the top level
* `Blueprint.forall_mem_androidStatements`, `Blueprint.forall_mem_dependencyStatements`: those in
  the two blocks
-/

namespace GradleScript.Blueprint

variable {b : Blueprint} {P : Statement → Prop}

theorem forall_mem_applicationId
    (id : b.isApplication = true → P (.keyValue "applicationId" (doubleQuoted b.package))) :
    ∀ s ∈ b.applicationId, P s := by
  unfold applicationId
  split
  · next h => exact List.forall_mem_singleton.2 (id h)
  · simp

theorem forall_mem_dataBindingBlock (binding : P (.block "dataBinding" [.line "enabled = true"])) :
    ∀ s ∈ b.dataBindingBlock, P s := by
  unfold dataBindingBlock
  split
  · exact List.forall_mem_singleton.2 binding
  · simp

theorem forall_mem_dimensionsLine
    (dimensions : b.flavorDimensions.toList ≠ [] →
      P (.keyValue "flavorDimensions"
        (", ".intercalate (b.flavorDimensions.toList.map doubleQuoted)))) :
    ∀ s ∈ b.dimensionsLine, P s := by
  unfold dimensionsLine
  split
  · simp
  · next h => exact List.forall_mem_singleton.2 (dimensions (by simpa [NameSet.isEmpty] using h))

/-- The section on flavors is left out, or it has the list of the dimensions, if there is one, and
a block of its own. -/
theorem flavorSection_eq_or (b : Blueprint) :
    b.hasFlavorSection = false ∧ b.flavorSection = [] ∨
      b.hasFlavorSection = true ∧ b.flavorSection =
        b.dimensionsLine ++ [.block "productFlavors" (b.flavors.map flavorBlock)] := by
  unfold flavorSection
  split
  · next h => exact .inr ⟨h, rfl⟩
  · next h => exact .inl ⟨by simpa using h, rfl⟩

theorem forall_mem_flavorSection
    (dimensions : b.flavorDimensions.toList ≠ [] →
      P (.keyValue "flavorDimensions"
        (", ".intercalate (b.flavorDimensions.toList.map doubleQuoted))))
    (flavors : P (.block "productFlavors" (b.flavors.map flavorBlock))) :
    ∀ s ∈ b.flavorSection, P s := by
  rcases b.flavorSection_eq_or with ⟨-, e⟩ | ⟨-, e⟩
  · simp [e]
  · rw [e, List.forall_mem_append, List.forall_mem_singleton]
    exact ⟨forall_mem_dimensionsLine dimensions, flavors⟩

/-- The statements in the `android` block: a level, five blocks, and a list of dimensions that is
not empty. -/
theorem forall_mem_androidStatements
    (compile : P (.keyValue "compileSdkVersion" (toString b.compileSdk.toNat)))
    (config : P b.defaultConfig) (types : P b.buildTypesBlock)
    (binding : P (.block "dataBinding" [.line "enabled = true"])) (options : P compileOptions)
    (dimensions : b.flavorDimensions.toList ≠ [] →
      P (.keyValue "flavorDimensions"
        (", ".intercalate (b.flavorDimensions.toList.map doubleQuoted))))
    (flavors : P (.block "productFlavors" (b.flavors.map flavorBlock))) :
    ∀ s ∈ b.androidStatements, P s := by
  simp only [androidStatements, List.forall_mem_append, List.forall_mem_cons]
  refine ⟨⟨⟨⟨compile, config, types, by simp⟩, ?_⟩, options, by simp⟩, ?_⟩
  · exact forall_mem_dataBindingBlock binding
  · exact forall_mem_flavorSection dimensions flavors

theorem forall_mem_dependencyStatements (archives : P (.keyValue "implementation" fileTree))
    (modules : ∀ d ∈ b.dependencies, P (moduleLine d))
    (libraries : ∀ l ∈ b.libraries, P (libraryLine l)) : ∀ s ∈ b.dependencyStatements, P s := by
  simp only [dependencyStatements, List.forall_mem_cons, List.forall_mem_append,
    List.forall_mem_map]
  exact ⟨archives, modules, libraries⟩

theorem forall_mem_statements (plugins : ∀ p ∈ b.plugins, P (applyPlugin p))
    (android : P (.block "android" b.androidStatements))
    (dependencies : P (.block "dependencies" b.dependencyStatements))
    (extra : ∀ l ∈ b.extraLines, P (.line l)) : ∀ s ∈ b.script.statements, P s := by
  simp only [script, List.forall_mem_append, List.forall_mem_cons, List.forall_mem_map]
  exact ⟨⟨plugins, android, dependencies, by simp⟩, extra⟩

end GradleScript.Blueprint
