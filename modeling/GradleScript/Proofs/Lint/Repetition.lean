import GradleScript.Lint
import Mathlib.Data.List.Dedup

/-!
# Repeated names

A list mentions some of its names more than once. Each of them is reported by the lint on flavors
exactly once, however often it is mentioned, and no other lint reports errors. So the errors of a
blueprint are as many as the names that several of its flavors have.

## Main definitions

* `repetitions`: how many names a list mentions more than once
* `Blueprint.flavorNames`: the names of the flavors

## Main results

* `count_secondMentions`: how often a name is reported
* `Finding.lint_eq_of_mem`: a finding belongs to the lint that made it
* `Blueprint.errorCount_lint`: how many errors a blueprint has
-/

namespace GradleScript

/-- How many names a list mentions more than once. -/
def repetitions (names : List String) : Nat :=
  names.dedup.countP fun name => 1 < names.count name

/-- The names of the flavors, in order. -/
def Blueprint.flavorNames (b : Blueprint) : List String := b.flavors.map (·.name)

/-- A name is reported at most once, and only if it has not been mentioned twice before. -/
theorem count_secondMentions (before names : List String) (name : String) :
    (secondMentions before names).count name =
      if before.count name ≤ 1 ∧ 1 < before.count name + names.count name then 1 else 0 := by
  induction names generalizing before with
  | nil =>
    rw [secondMentions, List.count_nil, if_neg (by omega)]
  | cons first rest ih =>
    have ih := ih (first :: before)
    rw [secondMentions]
    by_cases e : first = name
    · subst e
      rw [List.count_cons_self] at ih ⊢
      -- the second mention is this one if there was one before, else it is still to come
      split
      · next once => rw [List.count_cons_self, ih, if_neg (by omega), if_pos (by omega)]
      · next other =>
        rw [ih]
        congr 1
        exact propext (by omega)
    · rw [List.count_cons_of_ne e] at ih ⊢
      split
      · rw [List.count_cons_of_ne e, ih]
      · exact ih

theorem nodup_secondMentions (names : List String) : (secondMentions [] names).Nodup := by
  rw [List.nodup_iff_count_le_one]
  intro name
  rw [count_secondMentions]
  split <;> omega

theorem mem_secondMentions {names : List String} {name : String} :
    name ∈ secondMentions [] names ↔ 1 < names.count name := by
  rw [← List.one_le_count_iff, count_secondMentions, List.count_nil]
  split <;> omega

theorem length_secondMentions (names : List String) :
    (secondMentions [] names).length = repetitions names := by
  rw [repetitions, List.countP_eq_length_filter]
  refine List.Perm.length_eq ?_
  rw [List.perm_ext_iff_of_nodup (nodup_secondMentions names)
    ((List.nodup_dedup names).filter _)]
  intro name
  rw [mem_secondMentions, List.mem_filter, List.mem_dedup, decide_eq_true_iff]
  refine ⟨fun h => ⟨List.one_le_count_iff.1 (by omega), h⟩, fun h => h.2⟩

theorem repetitions_eq_zero_iff {names : List String} : repetitions names = 0 ↔ names.Nodup := by
  rw [repetitions, List.countP_eq_zero, List.nodup_iff_count_le_one]
  simp only [List.mem_dedup, decide_eq_true_iff, Nat.not_lt]
  refine ⟨fun h name => ?_, fun h name _ => h name⟩
  by_cases hm : name ∈ names
  · exact h name hm
  · rw [List.count_eq_zero.2 hm]
    omega

/-! ## Errors of a blueprint -/

/-- A finding belongs to the lint that made it. -/
theorem Finding.lint_eq_of_mem {b : Blueprint} {l : Lint} {f : Finding}
    (h : f ∈ l.findings b) : f.lint = l := by
  cases l with
  | duplicateFlavor =>
    obtain ⟨name, -, rfl⟩ := List.mem_map.1 h
    rfl
  | duplicateRelease =>
    rw [Lint.findings] at h
    split at h
    · rw [List.mem_singleton.1 h]
      rfl
    · simp at h
  | sdkRange =>
    rw [Lint.findings] at h
    split at h
    · rw [List.mem_singleton.1 h]
      rfl
    · simp at h
  | undeclaredDimension =>
    obtain ⟨flavor, -, e⟩ := List.mem_filterMap.1 h
    rw [Flavor.undeclared?] at e
    split at e
    · simp at e
    · split at e
      · simp at e
      · cases e
        rfl

/-- Only the lint on flavors with the same name reports errors. -/
theorem Finding.isError_diagnostic (f : Finding) :
    f.diagnostic.isError = decide (f.lint = .duplicateFlavor) := by
  cases f <;> rfl

namespace Blueprint

theorem errorCount_findings (b : Blueprint) (l : Lint) :
    errorCount ((l.findings b).map (·.diagnostic)) =
      if l = .duplicateFlavor then repetitions b.flavorNames else 0 := by
  rw [errorCount, List.countP_map]
  split
  · next h =>
    subst h
    have all : ∀ f ∈ Lint.duplicateFlavor.findings b, f.diagnostic.isError = true := by
      intro f hf
      rw [Finding.isError_diagnostic, Finding.lint_eq_of_mem hf]
      rfl
    refine (List.countP_eq_length.2 all).trans ?_
    rw [Lint.findings, List.length_map, length_secondMentions]
    rfl
  · next h =>
    rw [List.countP_eq_zero]
    intro f hf
    rw [Function.comp_apply, Finding.isError_diagnostic, Finding.lint_eq_of_mem hf]
    simpa using h

/-- **The errors of a blueprint** are as many as the names that several of its flavors have. -/
theorem errorCount_lint (b : Blueprint) : errorCount b.lint = repetitions b.flavorNames := by
  have each := errorCount_findings b
  simp only [errorCount] at each ⊢
  simp [lint, diagnose, findings, Lint.all, List.countP_append, each]

/-- A blueprint has an error if two of its flavors have the same name. -/
theorem any_isError_lint (b : Blueprint) :
    b.lint.any (·.isError) = true ↔ ¬ b.flavorNames.Nodup := by
  rw [← repetitions_eq_zero_iff, ← errorCount_lint, errorCount, List.countP_eq_zero,
    List.any_eq_true]
  simp

end Blueprint

end GradleScript
