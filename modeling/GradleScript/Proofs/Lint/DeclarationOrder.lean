import GradleScript.Proofs.Lint.Defects
import Mathlib.Data.List.Perm.Basic

/-!
# Findings and the order of declarations

The lint on flavors reports names in an order that depends on the order of the flavors, and so does
the lint on dimensions. What is reported, and how often, does not: a name is reported if it is
counted more than once, and counts do not depend on the order. So blueprints that declare the same
things in other orders have the same diagnostics in other orders. The diagnostics of one lint always
stand together.

## Main definitions

* `Blueprint.DeclaresSame`: blueprints that differ in the order of declarations
* `segment`: the diagnostics of one lint among some diagnostics

## Main results

* `perm_secondMentions`: which names are repeated does not depend on the order
* `Blueprint.perm_findings`: what a lint finds is the same up to the order
* `Blueprint.lint_eq_segments`: diagnostics stand lint by lint
* `Blueprint.perm_lint`: findings do not depend on the order of declarations
-/

namespace GradleScript

/-- **Which names are repeated** does not depend on the order in which names are listed. -/
theorem perm_secondMentions {names names' : List String} (h : names.Perm names') :
    (secondMentions [] names).Perm (secondMentions [] names') := by
  rw [List.perm_iff_count]
  intro name
  -- a name is reported as often as its count says, and both lists have the same counts
  rw [count_secondMentions, count_secondMentions, h.count_eq]

/-- The diagnostics of one lint among some diagnostics. -/
def segment (l : Lint) (ds : List Diagnostic) : List Diagnostic :=
  ds.filter fun d => d.lint == l.name

namespace Blueprint

/-- The blueprints declare the same flavors, build types, plugins and dimensions, in whatever
orders, and agree on all else. -/
structure DeclaresSame (a b : Blueprint) : Prop where
  flavors : a.flavors.Perm b.flavors
  buildTypes : a.buildTypes.Perm b.buildTypes
  plugins : a.plugins.toList.Perm b.plugins.toList
  flavorDimensions : a.flavorDimensions.toList.Perm b.flavorDimensions.toList
  others : b = { a with
    flavors := b.flavors, buildTypes := b.buildTypes, plugins := b.plugins,
    flavorDimensions := b.flavorDimensions }

variable {a b : Blueprint}

/-- Whether the dimension of a flavor is declared does not depend on where it is declared. -/
theorem DeclaresSame.undeclared? (h : a.DeclaresSame b) :
    Flavor.undeclared? a.flavorDimensions = Flavor.undeclared? b.flavorDimensions := by
  have declared (d : String) : d ∈ a.flavorDimensions ↔ d ∈ b.flavorDimensions :=
    h.flavorDimensions.mem_iff
  funext f
  simp only [Flavor.undeclared?, declared]

theorem DeclaresSame.any_buildTypes (h : a.DeclaresSame b) (p : BuildType → Bool) :
    a.buildTypes.any p = b.buildTypes.any p := by
  rw [Bool.eq_iff_iff, List.any_eq_true, List.any_eq_true]
  simp only [h.buildTypes.mem_iff]

/-- **What a lint finds** is the same up to the order. -/
theorem perm_findings (h : a.DeclaresSame b) (l : Lint) :
    (l.findings a).Perm (l.findings b) := by
  cases l with
  | duplicateFlavor => exact (perm_secondMentions (h.flavors.map _)).map _
  | duplicateRelease =>
    rw [Lint.findings, Lint.findings, h.any_buildTypes]
  | sdkRange =>
    have compileSdk : b.compileSdk = a.compileSdk := by rw [h.others]
    have targetSdk : b.targetSdk = a.targetSdk := by rw [h.others]
    rw [Lint.findings, Lint.findings, compileSdk, targetSdk]
  | undeclaredDimension =>
    rw [Lint.findings, Lint.findings, h.undeclared?]
    exact h.flavors.filterMap _

theorem segment_lint (b : Blueprint) (l : Lint) :
    segment l b.lint = (l.findings b).map (·.diagnostic) :=
  b.filter_lint_eq l

theorem perm_segment_lint (h : a.DeclaresSame b) (l : Lint) :
    (segment l a.lint).Perm (segment l b.lint) := by
  rw [segment_lint, segment_lint]
  exact (perm_findings h l).map _

/-- **Diagnostics stand lint by lint**, in the order of the lints. -/
theorem lint_eq_segments (b : Blueprint) : b.lint =
    segment .duplicateFlavor b.lint ++ segment .duplicateRelease b.lint ++
      segment .sdkRange b.lint ++ segment .undeclaredDimension b.lint := by
  simp only [segment_lint]
  simp only [lint, diagnose, findings, Lint.all, List.flatMap_cons, List.flatMap_nil,
    List.append_nil, List.map_append, List.append_assoc]

/-- **Findings do not depend on the order of declarations**: blueprints that declare the same things
have the same diagnostics, each as often. Those of one lint stand together, in the order of the
lints, and are the same on their own. -/
theorem perm_lint (h : a.DeclaresSame b) :
    a.lint.Perm b.lint ∧
      (∀ l, (segment l a.lint).Perm (segment l b.lint)) ∧
      ∀ c ∈ [a, b], c.lint =
        segment .duplicateFlavor c.lint ++ segment .duplicateRelease c.lint ++
          segment .sdkRange c.lint ++ segment .undeclaredDimension c.lint := by
  refine ⟨?_, perm_segment_lint h, fun c _ => c.lint_eq_segments⟩
  rw [a.lint_eq_segments, b.lint_eq_segments]
  have each := perm_segment_lint h
  exact (((each _).append (each _)).append (each _)).append (each _)

/-! ### Two orders -/

/-- A blueprint with some declarations and a target level that is above the one that is compiled
against. -/
def declaring (flavors : List Flavor) (buildTypes : List BuildType) (plugins dimensions : NameSet) :
    Blueprint :=
  { new "com.app" "app" 27 21 28 with
    flavors, buildTypes, plugins, flavorDimensions := dimensions }

/-- Two names are repeated, and one flavor has a dimension that is not declared. -/
def paidFirst : Blueprint :=
  declaring [⟨"free", some "tier"⟩, ⟨"paid", some "store"⟩, ⟨"paid", none⟩, ⟨"free", none⟩,
    ⟨"free", none⟩] [⟨"qa", ""⟩, ⟨"release", "x"⟩] (.ofList ["p", "q"]) (.ofList ["tier", "abi"])

/-- The same declarations, with the other name repeated first. -/
def freeFirst : Blueprint :=
  declaring [⟨"free", none⟩, ⟨"free", some "tier"⟩, ⟨"paid", none⟩, ⟨"free", none⟩,
    ⟨"paid", some "store"⟩] [⟨"release", "x"⟩, ⟨"qa", ""⟩] (.ofList ["q", "p"])
    (.ofList ["abi", "tier"])

/-- The diagnostics stand in other orders and are the same. -/
theorem perm_lint_paidFirst : paidFirst.DeclaresSame freeFirst ∧ paidFirst.lint ≠ freeFirst.lint ∧
    paidFirst.lint.length = 5 ∧ paidFirst.lint.Perm freeFirst.lint ∧
      (∀ l, (segment l paidFirst.lint).Perm (segment l freeFirst.lint)) ∧
      ∀ c ∈ [paidFirst, freeFirst], c.lint =
        segment .duplicateFlavor c.lint ++ segment .duplicateRelease c.lint ++
          segment .sdkRange c.lint ++ segment .undeclaredDimension c.lint := by
  have same : paidFirst.DeclaresSame freeFirst :=
    { flavors := by decide
      buildTypes := by decide
      plugins := by decide
      flavorDimensions := by decide
      others := rfl }
  exact ⟨same, by decide, by decide, perm_lint same⟩

end Blueprint

end GradleScript
