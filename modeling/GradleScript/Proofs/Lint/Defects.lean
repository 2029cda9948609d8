import GradleScript.Proofs.Blueprint.Blocks
import GradleScript.Proofs.Lint.Repetition

/-!
# Defects of the script

A lint looks at the blueprint, but what it reports can be seen in the script that is built from the
blueprint: two flavors of one name, a second release block, a target level above the level that is
compiled against, and flavors whose dimensions are not declared. For each of the four defects the
diagnostics are counted by what stands in the script, whatever the blueprint, and no other
diagnostic is made.

## Main definitions

* `Statement.usesUndeclared`: whether a flavor in the script has a dimension that is not declared
* `errorsOf`, `warningsOf`: the errors among some diagnostics, and the warnings of one lint
* `ReportsDefects`: diagnostics that report the defects of a script, each as often as it is there

## Main results

* `Blueprint.filter_lint_eq`: the diagnostics of one lint are what that lint finds
* `Blueprint.reportsDefects_lint`: the lints report the defects of the script
-/

namespace GradleScript

/-- Whether a block gives a dimension that is none of the declared ones. -/
def Statement.usesUndeclared (declared : NameSet) : Statement → Bool
  | .block _ children =>
    (valuesOf "dimension" children).any fun value =>
      declared.toList.all fun d => value != doubleQuoted d
  | _ => false

/-- The errors among some diagnostics. -/
def errorsOf (ds : List Diagnostic) : List Diagnostic := ds.filter (·.isError)

/-- The warnings of a lint among some diagnostics. -/
def warningsOf (l : Lint) (ds : List Diagnostic) : List Diagnostic :=
  ds.filter fun d => d.severity == .warning && d.lint == l.name

/-- The diagnostics report the defects of a script, when these are the declared dimensions. -/
structure ReportsDefects (declared : NameSet) (script : Script) (ds : List Diagnostic) : Prop where
  /-- There is an error if and only if two flavors have the same name. -/
  exists_error_iff : (∃ d ∈ ds, d.isError = true) ↔
    ¬ (blockNames (script.androidBlock "productFlavors")).Nodup
  /-- There is one error for each name that several flavors have, and no other error. -/
  errors : ∃ names : List String, names.Nodup ∧
    (∀ name, name ∈ names ↔
      1 < (blockNames (script.androidBlock "productFlavors")).count name) ∧
    errorsOf ds = names.map fun name => (Finding.duplicateFlavor name).diagnostic
  /-- There is one warning if there is a second release block, and none otherwise. -/
  release : (warningsOf .duplicateRelease ds).length =
    if 1 < (blockNames (script.androidBlock "buildTypes")).count "release" then 1 else 0
  /-- There is one warning if the target level that is written is above the level that is compiled
  against, and none otherwise. -/
  levels : ∃ target compile : Nat,
    valuesOf "targetSdkVersion" (script.androidBlock "defaultConfig") = [toString target] ∧
    (script.block? "android").map (valuesOf "compileSdkVersion") = some [toString compile] ∧
    (warningsOf .sdkRange ds).length = if compile < target then 1 else 0
  /-- There is one warning for each flavor whose dimension is not declared. -/
  dimensions : (warningsOf .undeclaredDimension ds).length =
    (script.androidBlock "productFlavors").countP (Statement.usesUndeclared declared)
  /-- Every diagnostic is one of these. -/
  complete : ∀ d ∈ ds, d ∈ errorsOf ds ∨ ∃ l, d ∈ warningsOf l ds

/-! ## The diagnostics of one lint -/

theorem Lint.name_inj {l l' : Lint} (h : l.name = l'.name) : l = l' := by
  cases l <;> cases l' <;> simp [Lint.name] at h ⊢

/-- What any lint finds but that on flavors with the same name is a warning. -/
theorem Finding.severity_eq_warning {f : Finding} (h : f.lint ≠ .duplicateFlavor) :
    f.severity = .warning := by
  cases f with
  | duplicateFlavor name => exact absurd rfl h
  | _ => rfl

namespace Blueprint

variable (b : Blueprint)

/-- The diagnostics of all lints are those of what each of them finds. -/
theorem mem_lint_iff {d : Diagnostic} :
    d ∈ b.lint ↔ ∃ f : Finding, f ∈ f.lint.findings b ∧ f.diagnostic = d := by
  simp only [lint, diagnose, findings, List.mem_map, List.mem_flatMap]
  constructor
  · rintro ⟨f, ⟨l, -, hf⟩, rfl⟩
    exact ⟨f, Finding.lint_eq_of_mem hf ▸ hf, rfl⟩
  · rintro ⟨f, hf, rfl⟩
    exact ⟨f, ⟨f.lint, by cases f.lint <;> decide, hf⟩, rfl⟩

/-- **The diagnostics of one lint** among those of all lints are what that lint finds, in its
order. -/
theorem filter_lint_eq (l : Lint) :
    b.lint.filter (fun d => d.lint == l.name) = (l.findings b).map (·.diagnostic) := by
  have each (l' : Lint) : ((l'.findings b).map (·.diagnostic)).filter (fun d => d.lint == l.name) =
      if l' = l then (l.findings b).map (·.diagnostic) else [] := by
    split
    · next e =>
      subst e
      refine List.filter_eq_self.2 (List.forall_mem_map.2 fun f hf => ?_)
      simp [Finding.diagnostic, Finding.lint_eq_of_mem hf]
    · next ne =>
      refine List.filter_eq_nil_iff.2 (List.forall_mem_map.2 fun f hf e => ne ?_)
      rw [Finding.diagnostic, Finding.lint_eq_of_mem hf] at e
      exact Lint.name_inj (by simpa using e)
  have concat : b.lint = Lint.all.flatMap fun l' => (l'.findings b).map (·.diagnostic) := by
    rw [lint, diagnose, findings, List.map_flatMap]
  rw [concat, List.filter_flatMap, funext each]
  cases l <;> simp [Lint.all]

theorem errorsOf_lint : errorsOf b.lint =
    (Lint.duplicateFlavor.findings b).map (·.diagnostic) := by
  rw [← filter_lint_eq, errorsOf]
  refine List.filter_congr fun d hd => ?_
  obtain ⟨f, -, rfl⟩ := b.mem_lint_iff.1 hd
  cases f <;> rfl

theorem warningsOf_lint {l : Lint} (h : l ≠ .duplicateFlavor) :
    warningsOf l b.lint = (l.findings b).map (·.diagnostic) := by
  rw [← filter_lint_eq, warningsOf]
  refine List.filter_congr fun d hd => ?_
  obtain ⟨f, -, rfl⟩ := b.mem_lint_iff.1 hd
  by_cases e : f.lint = l
  · simp [Finding.diagnostic, Finding.severity_eq_warning (e ▸ h)]
  · have ne : f.lint.name ≠ l.name := fun h => e (Lint.name_inj h)
    simp [Finding.diagnostic, ne]

/-! ## What is found in the script -/

theorem blockNames_productFlavors :
    blockNames (b.script.androidBlock "productFlavors") = b.flavorNames := by
  rw [androidBlock_productFlavors]
  simp [blockNames, flavorNames, Function.comp_def, Statement.blockName?, flavorBlock]

theorem count_release_blockNames_buildTypes :
    (blockNames (b.script.androidBlock "buildTypes")).count "release" =
      (b.buildTypes.map (·.name)).count releaseBuildType + 1 := by
  have names : blockNames (b.script.androidBlock "buildTypes") =
      releaseBuildType :: b.buildTypes.map (·.name) := by
    rw [androidBlock_buildTypes]
    simp [blockNames, releaseBlock, Function.comp_def, Statement.blockName?, buildTypeBlock]
  rw [names]
  exact List.count_cons_self

/-- A flavor is written with a dimension that is not declared if the lint finds that it has one. -/
theorem usesUndeclared_flavorBlock (declared : NameSet) (f : Flavor) :
    (flavorBlock f).usesUndeclared declared = (f.undeclared? declared).isSome := by
  have value : valuesOf "dimension" (f.dimension.toList.map fun d =>
      Statement.keyValue "dimension" (doubleQuoted d)) = f.dimension.toList.map doubleQuoted := by
    simp [valuesOf, Function.comp_def, Statement.valueOf?]
  rw [flavorBlock, Statement.usesUndeclared, value, Flavor.undeclared?]
  cases f.dimension with
  | none => rfl
  | some d =>
    -- a dimension is among the declared ones if its quotation is among theirs
    have quoted : (declared.toList.all fun d' => doubleQuoted d != doubleQuoted d') =
        decide (d ∉ declared) := by
      rw [Bool.eq_iff_iff, List.all_eq_true, decide_eq_true_iff]
      refine ⟨fun h hm => by simpa using h d hm, fun h d' hd' => ?_⟩
      rw [bne_iff_ne]
      exact fun e => h (doubleQuoted_inj e ▸ hd')
    by_cases h : d ∈ declared <;> simp [quoted, h]

theorem length_undeclaredDimension_findings :
    (Lint.undeclaredDimension.findings b).length =
      (b.script.androidBlock "productFlavors").countP
        (Statement.usesUndeclared b.flavorDimensions) := by
  rw [androidBlock_productFlavors, Lint.findings, List.length_filterMap_eq_countP, List.countP_map]
  exact List.countP_congr fun f _ => by
    rw [Function.comp_apply, usesUndeclared_flavorBlock]

/-- **The lints report the defects of the script**, for any blueprint. -/
theorem reportsDefects_lint : ReportsDefects b.flavorDimensions b.script b.lint where
  exists_error_iff := by
    rw [blockNames_productFlavors, ← any_isError_lint, List.any_eq_true]
  errors := by
    refine ⟨secondMentions [] b.flavorNames, nodup_secondMentions _, fun name => ?_, ?_⟩
    · rw [blockNames_productFlavors]
      exact mem_secondMentions
    · rw [errorsOf_lint, Lint.findings, List.map_map]
      rfl
  release := by
    rw [warningsOf_lint b (by decide), List.length_map, Lint.findings,
      count_release_blockNames_buildTypes]
    by_cases declared : releaseBuildType ∈ b.buildTypes.map (·.name)
    · have any : b.buildTypes.any (·.name == releaseBuildType) = true := by
        obtain ⟨t, ht, e⟩ := List.mem_map.1 declared
        exact List.any_eq_true.2 ⟨t, ht, by simpa using e⟩
      have pos := List.one_le_count_iff.2 declared
      rw [if_pos any, if_pos (by omega)]
      rfl
    · have not_any : ¬ b.buildTypes.any (·.name == releaseBuildType) = true := by
        intro any
        obtain ⟨t, ht, e⟩ := List.any_eq_true.1 any
        exact declared (List.mem_map.2 ⟨t, ht, by simpa using e⟩)
      rw [if_neg not_any, List.count_eq_zero.2 declared, if_neg (by omega)]
      rfl
  levels := by
    obtain ⟨config, found, -, target⟩ := b.findBlock_defaultConfig
    refine ⟨b.targetSdk.toNat, b.compileSdk.toNat, ?_, ?_, ?_⟩
    · rw [Script.androidBlock, block?_android, Option.bind_some, found]
      exact target
    · rw [block?_android, Option.map_some, valuesOf_androidStatements,
        valuesOf_flavorSection (by decide)]
      simp [valuesOf, Statement.valueOf?]
    · rw [warningsOf_lint b (by decide), List.length_map, Lint.findings]
      by_cases above : b.compileSdk < b.targetSdk
      · rw [if_pos above, if_pos (UInt32.lt_iff_toNat_lt.1 above)]
        rfl
      · rw [if_neg above, if_neg fun h => above (UInt32.lt_iff_toNat_lt.2 h)]
        rfl
  dimensions := by
    rw [warningsOf_lint b (by decide), List.length_map, length_undeclaredDimension_findings]
  complete := by
    intro d hd
    obtain ⟨f, hf, rfl⟩ := b.mem_lint_iff.1 hd
    by_cases h : f.lint = .duplicateFlavor
    · refine .inl (List.mem_filter.2 ⟨hd, ?_⟩)
      rw [Finding.isError_diagnostic, h]
      rfl
    · refine .inr ⟨f.lint, ?_⟩
      rw [warningsOf_lint b h]
      exact List.mem_map_of_mem hf

end Blueprint

end GradleScript
