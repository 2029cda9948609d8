import GradleScript.Blueprint.Edit
import GradleScript.Proofs.Lint.Defects
import Mathlib.Data.List.Flatten

/-!
# Findings and edits

An edit adds to a blueprint, and what has been found before is found again: flavors come to the end
of the list, so that their findings stand behind the earlier ones of the same lint, and a build type
can only add a finding. A name that has been reported is not reported again. The one edit that takes
findings away declares a dimension, and it takes those of the flavors of that dimension.

## Main definitions

* `dimensionWarnings`: the warnings about flavors whose dimensions are not declared

## Main results

* `secondMentions_append`: which names of a longer list are repeated
* `Blueprint.sublist_findings_edit`: what a lint finds after an edit
* `Blueprint.findings_addDimension`: what it finds after a dimension is declared
* `Blueprint.sublist_errors_editAll`: errors stay
* `Blueprint.lint_edit`: findings before and after an edit
-/

namespace GradleScript

/-- **The second mentions among more names** stand behind those among the first ones. -/
theorem secondMentions_append (before names more : List String) :
    secondMentions before (names ++ more) =
      secondMentions before names ++ secondMentions (names.reverse ++ before) more := by
  induction names generalizing before with
  | nil => rfl
  | cons name rest ih =>
    have ih := ih (name :: before)
    rw [List.cons_append, secondMentions, secondMentions, ih, List.reverse_cons, List.append_assoc,
      List.singleton_append]
    split <;> rfl

/-- The warnings about those of some flavors whose dimensions are not declared. -/
def dimensionWarnings (declared : NameSet) (flavors : List Flavor) : List Diagnostic :=
  (flavors.filterMap (Flavor.undeclared? declared)).map (·.diagnostic)

/-- A dimension that has been declared is missing to no flavor, and nothing else changes. -/
theorem Flavor.undeclared?_insert (declared : NameSet) (d : String) (f : Flavor) :
    f.undeclared? (declared.insert d) =
      if f.dimension ≠ some d then f.undeclared? declared else none := by
  rw [undeclared?, undeclared?]
  cases f.dimension with
  | none => simp
  | some own =>
    by_cases e : own = d
    · simp [NameSet.mem_insert, e]
    · simp [NameSet.mem_insert, e]

namespace Blueprint

variable (b : Blueprint)

/-! ## One edit -/

theorem sublist_findings_addBuildType (t : BuildType) (l : Lint) :
    (l.findings b).Sublist (l.findings (b.edit (.addBuildType t))) := by
  cases l with
  | duplicateRelease =>
    rw [Lint.findings, Lint.findings]
    split
    · next declared =>
      have still :
          (b.edit (.addBuildType t)).buildTypes.any (·.name == releaseBuildType) = true := by
        rw [edit, List.any_append, declared, Bool.true_or]
      rw [if_pos still]
    · exact List.nil_sublist _
  | _ => exact .refl _

theorem sublist_findings_addFlavor (f : Flavor) (l : Lint) :
    (l.findings b).Sublist (l.findings (b.edit (.addFlavor f))) := by
  cases l with
  | duplicateFlavor =>
    rw [Lint.findings, Lint.findings, edit, List.map_append, secondMentions_append]
    exact (List.sublist_append_left _ _).map _
  | undeclaredDimension =>
    rw [Lint.findings, Lint.findings, edit, List.filterMap_append]
    exact List.sublist_append_left _ _
  | _ => exact .refl _

variable {b} in
/-- **What a lint finds is found after an edit**, in the same order, unless the edit declares a
dimension. -/
theorem sublist_findings_edit {e : Edit} (h : ∀ d, e ≠ .addDimension d) (l : Lint) :
    (l.findings b).Sublist (l.findings (b.edit e)) := by
  cases e with
  | addDimension d => exact absurd rfl (h d)
  | addBuildType t => exact b.sublist_findings_addBuildType t l
  | addFlavor f => exact b.sublist_findings_addFlavor f l
  -- no lint looks at what the other edits are about
  | _ => cases l <;> exact .refl _

/-- **After a dimension is declared**, the lint on dimensions finds what it finds in the other
flavors. -/
theorem findings_addDimension (d : String) :
    Lint.undeclaredDimension.findings (b.edit (.addDimension d)) =
      (b.flavors.filter (·.dimension ≠ some d)).filterMap
        (Flavor.undeclared? b.flavorDimensions) := by
  have declared : (b.edit (.addDimension d)).flavorDimensions = b.flavorDimensions.insert d := rfl
  have flavors : (b.edit (.addDimension d)).flavors = b.flavors := rfl
  rw [Lint.findings, declared, flavors, List.filterMap_filter]
  exact List.filterMap_congr fun f _ => by simp [Flavor.undeclared?_insert]

/-! ## All lints -/

/-- The lint on dimensions runs last. -/
theorem lint_eq_append : b.lint =
    b.diagnose [.duplicateFlavor, .duplicateRelease, .sdkRange] ++
      (Lint.undeclaredDimension.findings b).map (·.diagnostic) := by
  simp [lint, diagnose, findings, Lint.all]

variable {b} in
theorem sublist_lint_edit {e : Edit} (h : ∀ d, e ≠ .addDimension d) :
    b.lint.Sublist (b.edit e).lint := by
  rw [lint, lint, diagnose, diagnose, findings, findings]
  exact (List.Sublist.flatMap_right _ fun l _ => sublist_findings_edit h l).map _

/-- A dimension that is declared is nothing to the other lints. -/
theorem lint_addDimension (d : String) : (b.edit (.addDimension d)).lint =
    b.diagnose [.duplicateFlavor, .duplicateRelease, .sdkRange] ++
      dimensionWarnings b.flavorDimensions (b.flavors.filter (·.dimension ≠ some d)) := by
  rw [lint_eq_append, findings_addDimension]
  rfl

theorem sublist_errors_edit (e : Edit) :
    (errorsOf b.lint).Sublist (errorsOf (b.edit e).lint) := by
  rw [errorsOf_lint, errorsOf_lint]
  cases e with
  | addDimension d => exact .refl _
  | _ => exact (sublist_findings_edit (by simp) _).map _

/-- **Errors stay**, whatever edits follow. -/
theorem sublist_errors_editAll (es : List Edit) :
    (errorsOf b.lint).Sublist (errorsOf (b.editAll es).lint) := by
  induction es generalizing b with
  | nil => exact .refl _
  | cons e rest ih => exact (b.sublist_errors_edit e).trans (ih (b.edit e))

/-- **Findings before and after an edit.** An edit that declares no dimension leaves every finding
where it is among the others. One that declares a dimension takes away the warnings about the
flavors of this dimension, and nothing else. So a run of edits never takes an error away. -/
theorem lint_edit :
    (∀ e, (∀ d, e ≠ .addDimension d) → b.lint.Sublist (b.edit e).lint) ∧
    (∀ d, ∃ others,
      b.lint = others ++ dimensionWarnings b.flavorDimensions b.flavors ∧
      (b.edit (.addDimension d)).lint =
        others ++ dimensionWarnings b.flavorDimensions (b.flavors.filter (·.dimension ≠ some d))) ∧
    ∀ es, (errorsOf b.lint).Sublist (errorsOf (b.editAll es).lint) :=
  ⟨fun _ => sublist_lint_edit, fun d => ⟨_, b.lint_eq_append, b.lint_addDimension d⟩,
    b.sublist_errors_editAll⟩

/-- A blueprint in which a name is repeated and two dimensions are missing. -/
def missingDimensions : Blueprint :=
  (new "com.app" "app" 27 21 28).editAll
    [.addFlavor ⟨"free", some "tier"⟩, .addFlavor ⟨"paid", some "store"⟩, .addFlavor ⟨"free", none⟩,
      .addFlavor ⟨"beta", some "tier"⟩]

/-- Another flavor adds a finding in the middle and one at the end. A dimension takes away the first
and the last of three warnings. -/
theorem lint_edit_missingDimensions :
    (∀ d, Edit.addFlavor ⟨"paid", some "abi"⟩ ≠ .addDimension d) ∧
      missingDimensions.lint.length = 5 ∧
      (missingDimensions.edit (.addFlavor ⟨"paid", some "abi"⟩)).lint.length = 7 ∧
      missingDimensions.lint.Sublist
        (missingDimensions.edit (.addFlavor ⟨"paid", some "abi"⟩)).lint ∧
      ∃ others,
        missingDimensions.lint = others ++
          [(Finding.undeclaredDimension "free" "tier").diagnostic,
            (Finding.undeclaredDimension "paid" "store").diagnostic,
            (Finding.undeclaredDimension "beta" "tier").diagnostic] ∧
        (missingDimensions.edit (.addDimension "tier")).lint =
          others ++ [(Finding.undeclaredDimension "paid" "store").diagnostic] := by
  obtain ⟨kept, dimension, -⟩ := lint_edit missingDimensions
  have other : ∀ d, Edit.addFlavor ⟨"paid", some "abi"⟩ ≠ .addDimension d := by simp
  exact ⟨other, by decide, by decide, kept _ other, dimension "tier"⟩

end Blueprint

end GradleScript
