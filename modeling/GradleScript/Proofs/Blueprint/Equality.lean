import GradleScript.Blueprint.Edit
import GradleScript.Lint
import GradleScript.Proofs.Blueprint.Content
import GradleScript.Proofs.Path.Components
import Mathlib.Data.List.Perm.Subperm

/-!
# What equal blueprints have in common

Blueprints can describe the same module and differ in the spelling of their paths and in the order
of their plugins and dimensions. No lint depends on either, and the place of the build script
depends on the steps of the path alone. The script lists the plugins and the dimensions in their
order, so that is what equal blueprints can differ in there.

## Main results

* `NameSet.same_iff`: sets are the same if they have the same names
* `Blueprint.same_iff`: what it means for blueprints to be the same
* `Blueprint.script_eq_iff_of_same`: when blueprints that are the same have one script
* `Blueprint.consequences_of_same`: what blueprints that are the same agree on
-/

namespace GradleScript

/-- **Sets are the same if they have the same names.** -/
theorem NameSet.same_iff {s t : NameSet} : s.same t = true ↔ ∀ name, name ∈ s ↔ name ∈ t := by
  simp only [same, Bool.and_eq_true, beq_iff_eq, List.all_eq_true, decide_eq_true_eq]
  constructor
  · rintro ⟨len, sub⟩ name
    -- a set with as many names that are all in the other one leaves none out
    have perm := (List.subperm_of_subset s.nodup sub).perm_of_length_le (Nat.le_of_eq len.symm)
    exact perm.mem_iff
  · intro h
    have perm : s.toList.Perm t.toList := (List.perm_ext_iff_of_nodup s.nodup t.nodup).2 h
    exact ⟨perm.length_eq, fun name => (h name).1⟩

namespace Blueprint

variable {a b : Blueprint}

/-- Blueprints are the same if they agree, up to the spelling of the path and up to the order of
plugins and dimensions. -/
theorem same_iff : a.same b = true ↔
    a.package = b.package ∧ Path.same a.path b.path = true ∧ a.compileSdk = b.compileSdk ∧
      a.minSdk = b.minSdk ∧ a.targetSdk = b.targetSdk ∧ a.isApplication = b.isApplication ∧
      (∀ p, p ∈ a.plugins ↔ p ∈ b.plugins) ∧ a.buildTypes = b.buildTypes ∧
      a.dataBinding = b.dataBinding ∧ (∀ d, d ∈ a.flavorDimensions ↔ d ∈ b.flavorDimensions) ∧
      a.flavors = b.flavors ∧ a.dependencies = b.dependencies ∧ a.libraries = b.libraries ∧
      a.extraLines = b.extraLines := by
  simp only [same, Bool.and_eq_true, beq_iff_eq, NameSet.same_iff, and_assoc]

/-! ## Lints -/

/-- A lint finds the same in blueprints that are the same: whether a dimension is declared does
not depend on where in the list it is. -/
theorem findings_eq_of_same (h : a.same b = true) (l : Lint) : l.findings a = l.findings b := by
  obtain ⟨-, -, compileSdk, -, targetSdk, -, -, buildTypes, -, dimensions, flavors, -⟩ :=
    same_iff.1 h
  cases l with
  | duplicateFlavor => rw [Lint.findings, Lint.findings, flavors]
  | duplicateRelease => rw [Lint.findings, Lint.findings, buildTypes]
  | sdkRange => rw [Lint.findings, Lint.findings, compileSdk, targetSdk]
  | undeclaredDimension =>
    have undeclared : Flavor.undeclared? a.flavorDimensions =
        Flavor.undeclared? b.flavorDimensions := by
      funext f
      simp only [Flavor.undeclared?, dimensions]
    rw [Lint.findings, Lint.findings, flavors, undeclared]

theorem lint_eq_of_same (h : a.same b = true) : a.lint = b.lint := by
  have found : a.findings Lint.all = b.findings Lint.all := by
    rw [findings, findings, funext (findings_eq_of_same h)]
  rw [lint, lint, diagnose, diagnose, found]

/-! ## Paths -/

/-- The build script is one step below the module. -/
theorem components_scriptPath (b : Blueprint) :
    Path.components b.scriptPath = Path.components b.path ++ [.name scriptFileName] :=
  Path.components_join (by decide) (by decide) (by decide) b.path

/-! ## Scripts -/

/-- Blueprints that are the same have one content if they list their plugins and dimensions in the
same order. -/
theorem sameContent_of_same (h : a.same b = true) (plugins : a.plugins = b.plugins)
    (dimensions : a.flavorDimensions = b.flavorDimensions) : a.SameContent b := by
  obtain ⟨package, -, compileSdk, minSdk, targetSdk, isApplication, -, buildTypes, dataBinding, -,
    flavors, dependencies, libraries, extraLines⟩ := same_iff.1 h
  exact ⟨compileSdk, minSdk, targetSdk, isApplication, fun _ => package, plugins,
    congrArg _ buildTypes, dataBinding, dimensions, flavors, dependencies, libraries, extraLines⟩

/-- Blueprints that are the same have one script if they list their plugins and dimensions in the
same order: the script is a function of everything but the path. -/
theorem script_eq_of_same (h : a.same b = true) (plugins : a.plugins = b.plugins)
    (dimensions : a.flavorDimensions = b.flavorDimensions) : a.script = b.script :=
  script_eq_of_sameContent (sameContent_of_same h plugins dimensions)

/-- A script lists the plugins and the dimensions in their order, and says nothing else that
blueprints which are the same can differ in. -/
theorem script_eq_iff_of_same (h : a.same b = true)
    (unquoted : ∀ d ∈ a.flavorDimensions, '"' ∉ d.toList) :
    a.script = b.script ↔ a.plugins.toList = b.plugins.toList ∧
      a.flavorDimensions.toList = b.flavorDimensions.toList := by
  obtain ⟨-, -, -, -, -, -, -, -, -, dimensions, -⟩ := same_iff.1 h
  constructor
  · intro e
    -- the dimensions of both blueprints are the same, and so are without quotation marks in both
    have content := sameContent_of_script_eq unquoted
      (fun d hd => unquoted d ((dimensions d).2 hd)) e
    exact ⟨congrArg NameSet.toList content.plugins,
      congrArg NameSet.toList content.flavorDimensions⟩
  · rintro ⟨plugins, listed⟩
    exact script_eq_of_same h (NameSet.ext plugins) (NameSet.ext listed)

/-- **What blueprints that are the same agree on**: what the lints say, the place of the script up
to its spelling, and the script itself exactly if the plugins and the dimensions are listed in the
same order. -/
theorem consequences_of_same (h : a.same b = true) :
    a.lint = b.lint ∧ Path.same a.scriptPath b.scriptPath = true ∧
      ((∀ d ∈ a.flavorDimensions, '"' ∉ d.toList) →
        (a.script = b.script ↔ a.plugins.toList = b.plugins.toList ∧
          a.flavorDimensions.toList = b.flavorDimensions.toList)) ∧
      (a.plugins.toList = b.plugins.toList →
        a.flavorDimensions.toList = b.flavorDimensions.toList →
          ∀ indent, a.render indent = b.render indent) := by
  have path : Path.components a.path = Path.components b.path := by
    simpa [Path.same] using (same_iff.1 h).2.1
  refine ⟨lint_eq_of_same h, ?_, script_eq_iff_of_same h, fun plugins dimensions indent => ?_⟩
  · rw [Path.same, components_scriptPath, components_scriptPath, path, beq_self_eq_true]
  · rw [render, render, script_eq_of_same h (NameSet.ext plugins) (NameSet.ext dimensions)]

/-- A module with two plugins, and with a flavor whose dimension is not declared. -/
def twoPlugins (path first second : String) : Blueprint :=
  (new "com.example.core" path 30 21 31).editAll
    [.addPlugin first, .addPlugin second, .addDimension "tier", .addFlavor ⟨"paid", some "price"⟩]

/-- Modules that are the same up to the spelling of the path and the order of the plugins have the
same findings and different scripts. -/
theorem consequences_of_same_twoPlugins :
    (twoPlugins "libs//core/." "a" "b").same (twoPlugins "libs/core" "b" "a") = true ∧
      (twoPlugins "libs//core/." "a" "b").lint = (twoPlugins "libs/core" "b" "a").lint ∧
      Path.same (twoPlugins "libs//core/." "a" "b").scriptPath
        (twoPlugins "libs/core" "b" "a").scriptPath = true ∧
      (twoPlugins "libs//core/." "a" "b").script ≠ (twoPlugins "libs/core" "b" "a").script := by
  have h : (twoPlugins "libs//core/." "a" "b").same (twoPlugins "libs/core" "b" "a") = true := by
    decide
  obtain ⟨lints, path, scripts, -⟩ := consequences_of_same h
  have unquoted : ∀ d ∈ (twoPlugins "libs//core/." "a" "b").flavorDimensions.toList,
      '"' ∉ d.toList := by decide
  refine ⟨h, lints, path, fun e => ?_⟩
  exact absurd ((scripts unquoted).1 e).1 (by decide)

end Blueprint

end GradleScript
