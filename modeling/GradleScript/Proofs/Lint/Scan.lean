import GradleScript.Proofs.Lint.Repetition

/-!
# The pass of a lint over a blueprint

A lint goes over the blueprint once and adds what it finds to the diagnostics that there are. What
it adds does not depend on them. The pass over the flavors keeps two sets, of the names that it has
met and of those that it has reported, and adds each repeated name at its second mention.

## Main definitions

* `IsSecondAt`: a name is mentioned for the second time at a place of a list
* `RepeatedInOrder`: the repeated names of a list, in the order of their second mentions
* `FlavorScan.Follows`: what the two sets hold when some names have been met

## Main results

* `repeatedInOrder_secondMentions`: second mentions are all repeated names, in order
* `FlavorScan.diagnostics_foldl`: what a pass over some more flavors adds
* `Lint.check_eq_append`: what a lint adds
* `Blueprint.diagnose_eq_foldl_check`: lints that run one after the other
* `Lint.check_duplicateFlavor`: the lint on flavors is exact
-/

namespace GradleScript

/-! ## Second mentions -/

/-- The name stands at this place of a list, and stands once before it. -/
def IsSecondAt (names : List String) (name : String) (place : Nat) : Prop :=
  names[place]? = some name ∧ (names.take place).count name = 1

/-- The names that a list mentions more than once, each of them once, in the order in which they are
mentioned for the second time. -/
structure RepeatedInOrder (names repeated : List String) : Prop where
  nodup : repeated.Nodup
  mem_iff : ∀ name, name ∈ repeated ↔ 2 ≤ names.count name
  ordered : repeated.Pairwise fun first second =>
    ∃ i j, IsSecondAt names first i ∧ IsSecondAt names second j ∧ i < j

theorem isSecondAt_length {before : List String} {name : String} (once : before.count name = 1)
    (rest : List String) : IsSecondAt (before ++ name :: rest) name before.length := by
  constructor
  · rw [List.getElem?_append_right (Nat.le_refl _), Nat.sub_self, List.getElem?_cons_zero]
  · rw [List.take_left]
    exact once

/-- The second mentions among the names behind some others stand behind those, in order. -/
theorem pairwise_secondMentions (before names : List String) :
    (∀ name ∈ secondMentions before.reverse names,
      ∃ i, IsSecondAt (before ++ names) name i ∧ before.length ≤ i) ∧
    (secondMentions before.reverse names).Pairwise fun first second =>
      ∃ i j, IsSecondAt (before ++ names) first i ∧ IsSecondAt (before ++ names) second j ∧
        i < j := by
  induction names generalizing before with
  | nil => exact ⟨by simp [secondMentions], by simp [secondMentions]⟩
  | cons name rest ih =>
    have ih := ih (before ++ [name])
    rw [List.reverse_concat, List.append_assoc, List.singleton_append, List.length_append,
      List.length_singleton] at ih
    obtain ⟨later, ordered⟩ := ih
    have behind : ∀ other ∈ secondMentions (name :: before.reverse) rest,
        ∃ i, IsSecondAt (before ++ name :: rest) other i ∧ before.length ≤ i := by
      intro other ho
      obtain ⟨i, hi, le⟩ := later other ho
      exact ⟨i, hi, by omega⟩
    rw [secondMentions]
    split
    · next once =>
      rw [List.count_reverse] at once
      have here := isSecondAt_length once rest
      refine ⟨?_, List.pairwise_cons.2 ⟨?_, ordered⟩⟩
      · rw [List.forall_mem_cons]
        exact ⟨⟨_, here, Nat.le_refl _⟩, behind⟩
      · intro other ho
        obtain ⟨j, hj, le⟩ := later other ho
        exact ⟨_, j, here, hj, by omega⟩
    · exact ⟨behind, ordered⟩

/-- **Second mentions are all repeated names**, in order. -/
theorem repeatedInOrder_secondMentions (names : List String) :
    RepeatedInOrder names (secondMentions [] names) where
  nodup := nodup_secondMentions names
  mem_iff _ := mem_secondMentions
  ordered := (pairwise_secondMentions [] names).2

/-- The name that is mentioned first need not be the first one that is repeated. -/
example : secondMentions [] ["a", "b", "b", "a", "c", "a"] = ["b", "a"] := by decide

/-! ## One pass over the flavors -/

/-- With one more mention, a name is repeated if it was before, or if the mention is its own and not
its first. -/
theorem one_lt_count_cons_iff {name first : String} {before : List String} :
    1 < (first :: before).count name ↔ 1 < before.count name ∨ first ∈ before ∧ name = first := by
  by_cases e : name = first
  · subst e
    rw [List.count_cons_self, ← List.one_le_count_iff, and_iff_left rfl]
    omega
  · rw [List.count_cons_of_ne (Ne.symm e)]
    simp [e]

namespace FlavorScan

/-! ### One flavor -/

section Step

variable (scan : FlavorScan) (f : Flavor)

theorem met_step : (scan.step f).met = scan.met.insert f.name := by
  rw [step]
  split
  · rfl
  · next met =>
    rw [NameSet.insert_of_mem (not_not.1 met)]
    split <;> rfl

theorem reported_step : (scan.step f).reported =
    if f.name ∈ scan.met then scan.reported.insert f.name else scan.reported := by
  rw [step, ite_not]
  split
  · split
    · next reported => exact (NameSet.insert_of_mem reported).symm
    · rfl
  · rfl

theorem diagnostics_step : (scan.step f).diagnostics = scan.diagnostics ++
    if f.name ∈ scan.met ∧ f.name ∉ scan.reported then
      [(Finding.duplicateFlavor f.name).diagnostic] else [] := by
  rw [step, ite_not]
  by_cases met : f.name ∈ scan.met
  · by_cases reported : f.name ∈ scan.reported <;> simp [met, reported]
  · simp [met]

end Step

/-- The sets are right when these names have been met: one holds them all, the other those among
them that have been met twice. -/
structure Follows (scan : FlavorScan) (before : List String) : Prop where
  met : ∀ name, name ∈ scan.met ↔ name ∈ before
  reported : ∀ name, name ∈ scan.reported ↔ 1 < before.count name

theorem follows_start (earlier : List Diagnostic) : Follows ⟨∅, ∅, earlier⟩ [] where
  met _ := Iff.rfl
  reported _ := by
    rw [List.count_nil]
    exact iff_of_false List.not_mem_nil (by omega)

variable {scan : FlavorScan} {before : List String}

/-- The sets stay right. -/
theorem Follows.step (h : scan.Follows before) (f : Flavor) :
    (scan.step f).Follows (f.name :: before) where
  met name := by
    rw [met_step, NameSet.mem_insert, h.met, List.mem_cons, or_comm]
  reported name := by
    rw [reported_step, one_lt_count_cons_iff, ← h.reported, ← h.met]
    split
    · next met => rw [NameSet.mem_insert, and_iff_right met]
    · next not_met => rw [or_iff_left fun both => not_met both.1]

/-- A name is added at its second mention. -/
theorem Follows.diagnostics_step (h : scan.Follows before) (f : Flavor) :
    (scan.step f).diagnostics = scan.diagnostics ++ if before.count f.name = 1 then
      [(Finding.duplicateFlavor f.name).diagnostic] else [] := by
  have second : f.name ∈ scan.met ∧ f.name ∉ scan.reported ↔ before.count f.name = 1 := by
    rw [h.met, h.reported, ← List.one_le_count_iff]
    omega
  rw [FlavorScan.diagnostics_step, if_congr second rfl rfl]

/-! ### A run of flavors -/

/-- **A pass over some more flavors** adds the second mentions among them. -/
theorem diagnostics_foldl (h : scan.Follows before) (flavors : List Flavor) :
    (flavors.foldl FlavorScan.step scan).diagnostics = scan.diagnostics ++
      (secondMentions before (flavors.map (·.name))).map fun name =>
        (Finding.duplicateFlavor name).diagnostic := by
  induction flavors generalizing scan before with
  | nil => simp [secondMentions]
  | cons f rest ih =>
    rw [List.foldl_cons, ih (h.step f), h.diagnostics_step, List.map_cons, secondMentions]
    split <;> simp

end FlavorScan

/-! ## Any lint -/

/-- A pass that may add something at each flavor adds what there is to add, in order. -/
theorem foldl_undeclared (declared : NameSet) (flavors : List Flavor) (earlier : List Diagnostic) :
    flavors.foldl (fun ds f =>
      match f.undeclared? declared with
      | none => ds
      | some finding => ds ++ [finding.diagnostic]) earlier =
        earlier ++ (flavors.filterMap (Flavor.undeclared? declared)).map (·.diagnostic) := by
  induction flavors generalizing earlier with
  | nil => simp
  | cons f rest ih =>
    rw [List.foldl_cons, ih]
    cases h : f.undeclared? declared with
    | none => rw [List.filterMap_cons_none h]
    | some finding => simp [List.filterMap_cons_some h]

/-- **What a lint adds** is what it finds, whatever diagnostics there are. -/
theorem Lint.check_eq_append (b : Blueprint) (earlier : List Diagnostic) (l : Lint) :
    l.check b earlier = earlier ++ (l.findings b).map (·.diagnostic) := by
  cases l with
  | duplicateFlavor =>
    rw [check, findings, FlavorScan.diagnostics_foldl (FlavorScan.follows_start earlier),
      List.map_map]
    rfl
  | duplicateRelease =>
    rw [check, findings]
    split <;> simp
  | sdkRange =>
    rw [check, findings]
    split <;> simp
  | undeclaredDimension => exact foldl_undeclared b.flavorDimensions b.flavors earlier

/-- **Lints that run one after the other** each add to what there is. -/
theorem Blueprint.diagnose_eq_foldl_check (b : Blueprint) (lints : List Lint) :
    b.diagnose lints = lints.foldl (fun earlier l => l.check b earlier) [] := by
  have run (earlier : List Diagnostic) :
      lints.foldl (fun earlier l => l.check b earlier) earlier = earlier ++ b.diagnose lints := by
    induction lints generalizing earlier with
    | nil => simp [diagnose, findings]
    | cons l rest ih =>
      rw [List.foldl_cons, ih, Lint.check_eq_append]
      simp [diagnose, findings, List.append_assoc]
  rw [run, List.nil_append]

/-- **The lint on flavors is exact.** To whatever diagnostics there are it adds one error for each
name that several flavors have, in the order of the second mentions. Lints run by adding to the
diagnostics of those before them. -/
theorem Lint.check_duplicateFlavor (b : Blueprint) :
    (∃ names, RepeatedInOrder b.flavorNames names ∧
      ∀ earlier, Lint.duplicateFlavor.check b earlier = earlier ++ names.map fun name =>
        { severity := .error
          lint := "duplicate-flavor"
          message := "flavor '" ++ name ++ "' is declared more than once"
          location := some "flavors" }) ∧
      ∀ lints, b.diagnose lints = lints.foldl (fun earlier l => l.check b earlier) [] := by
  refine ⟨⟨secondMentions [] b.flavorNames, repeatedInOrder_secondMentions _, ?_⟩,
    b.diagnose_eq_foldl_check⟩
  intro earlier
  rw [check_eq_append, findings, List.map_map]
  rfl

end GradleScript
