import GradleScript.Proofs.Except
import GradleScript.Proofs.FileTree.Growth
import GradleScript.Proofs.Path.Prefixes

/-!
# Where directories are made

Directories are made on the way that a path takes and nowhere else: each new one is where a prefix
of the path leads. Once they are there, making them again changes nothing, whatever else has been
made and written.

## Main definitions

* `FileTree.MadeAlong`: everything new is on a way through the tree

## Main results

* `FileTree.exists_isPrefix_of_makeDirs`: the new directories are where prefixes of the path lead
* `FileTree.makeDirs_again`: directories that have been made are not made again
-/

namespace GradleScript.FileTree

variable {t t' t₁ : FileTree} {base l m : Location} {s : PathStep} {steps : List PathStep}
  {path : String}

/-! ## Ways and their last steps -/

theorem walkFrom_concat_eq_ok_iff : t.walkFrom base (steps ++ [s]) = .ok m ↔
    ∃ l, t.walkFrom base steps = .ok l ∧ t.step l s = .ok m := by
  have last (l : Location) : t.walkFrom l [s] = t.step l s := by
    rw [walkFrom]
    cases t.step l s <;> rfl
  rw [walkFrom_append]
  exact Except.bind_eq_ok_iff.trans (exists_congr fun l => by rw [last])

/-- A way to a directory starts from one. -/
theorem directory_of_walkFrom (h : t.walkFrom l steps = .ok m) (hd : t.node? m = some .directory) :
    t.node? l = some .directory := by
  cases steps with
  | nil =>
    cases h
    exact hd
  | cons s rest =>
    rw [walkFrom] at h
    split at h
    · next hs => exact (step_eq_ok_iff.1 hs).1
    · simp at h

/-- Steps that stay where they are make no difference on a way to a directory. -/
theorem walkFrom_of_filter (h : t.walkFrom l (steps.filter (· ≠ .stay)) = .ok m)
    (hd : t.node? m = some .directory) : t.walkFrom l steps = .ok m := by
  induction steps generalizing l with
  | nil => exact h
  | cons s rest ih =>
    by_cases stay : s = .stay
    · rw [List.filter_cons_of_neg (by simp [stay])] at h
      have stays : t.step l s = .ok l :=
        step_eq_ok_iff.2 ⟨directory_of_walkFrom h hd, stay ▸ rfl⟩
      rw [walkFrom, stays]
      exact ih h
    · rw [List.filter_cons_of_pos (by simp [stay]), walkFrom] at h
      rw [walkFrom]
      split at h
      · exact ih h
      · simp at h

/-! ## Making directories on a way -/

/-- What one tree has in another place than the other is where some of the first steps of a way
lead. -/
def MadeAlong (t t' : FileTree) (base : Location) (steps : List PathStep) : Prop :=
  ∀ l, t'.node? l ≠ t.node? l →
    ∃ front, front ≠ [] ∧ front <+: steps ∧ t'.walkFrom base front = .ok l

theorem MadeAlong.refl (t : FileTree) (base : Location) (steps : List PathStep) :
    t.MadeAlong t base steps :=
  fun _ h => absurd rfl h

theorem MadeAlong.append (h : t.MadeAlong t' base steps) (more : List PathStep) :
    t.MadeAlong t' base (steps ++ more) := by
  intro l hl
  obtain ⟨front, ne, first, walked⟩ := h l hl
  exact ⟨front, ne, first.trans (List.prefix_append _ _), walked⟩

/-- A directory that has been made is where the way leads with one step more. -/
theorem walkFrom_of_makeDir (hw : t.walkFrom base steps = .ok l)
    (h : t.makeDir l s = (.ok m, t')) :
    t'.walkFrom base (steps ++ [s]) = .ok m ∧ t'.node? m = some .directory := by
  rcases t.makeDir_cases l s with ⟨e, h'⟩ | ⟨_, _, h', stepped, adds, directory, -⟩
  · rw [h'] at h
    cases h
  · rw [h'] at h
    cases h
    exact ⟨walkFrom_concat_eq_ok_iff.2
      ⟨l, adds.grows.walkFrom hw, adds.grows.step stepped⟩, directory⟩

/-- Making one directory more goes on along the way. -/
theorem MadeAlong.makeDir (h : t.MadeAlong t₁ base steps) (hw : t₁.walkFrom base steps = .ok l)
    (s : PathStep) : t.MadeAlong (t₁.makeDir l s).2 base (steps ++ [s]) := by
  rcases t₁.makeDir_cases l s with ⟨e, failed⟩ | ⟨m, t', made, -, adds, -, others⟩
  · rw [failed]
    exact h.append [s]
  · intro k hk
    have reached := (walkFrom_of_makeDir hw made).1
    rw [made] at hk ⊢
    by_cases e : k = m
    · subst e
      exact ⟨steps ++ [s], by simp, List.prefix_refl _, reached⟩
    · dsimp only at hk
      rw [others k e] at hk
      obtain ⟨front, ne, first, walked⟩ := h k hk
      exact ⟨front, ne, first.trans (List.prefix_append _ _), adds.grows.walkFrom walked⟩

/-- The last of a chain of directories is where the steps lead. -/
theorem walkFrom_of_makeChain (h : t.makeChain base steps = (.ok l, t')) :
    t'.walkFrom base steps.reverse = .ok l ∧ (steps ≠ [] → t'.node? l = some .directory) := by
  induction steps generalizing l t' with
  | nil =>
    cases h
    exact ⟨rfl, fun ne => absurd rfl ne⟩
  | cons s before ih =>
    rw [List.reverse_cons]
    rcases t.makeChain_cons_cases base s before with
      ⟨e, h'⟩ | ⟨l₀, walked, h'⟩ | ⟨l₀, t₁, made, h'⟩ | ⟨e, t₁, -, h'⟩ <;> rw [h'] at h
    · cases h
    · exact (walkFrom_of_makeDir walked h).imp_right fun directory _ => directory
    · exact (walkFrom_of_makeDir (ih made).1 h).imp_right fun directory _ => directory
    · cases h

/-- Whatever a chain of directories adds is on its way, also if a later step fails. -/
theorem madeAlong_makeChain (t : FileTree) (base : Location) (steps : List PathStep) :
    t.MadeAlong (t.makeChain base steps).2 base steps.reverse := by
  -- the steps are given from the last to the first, so the hypothesis is on the chain in front
  induction steps with
  | nil => exact .refl t base []
  | cons s before ih =>
    rw [List.reverse_cons]
    rcases t.makeChain_cons_cases base s before with
      ⟨e, h⟩ | ⟨l, walked, h⟩ | ⟨l, t₁, made, h⟩ | ⟨e, t₁, failed, h⟩ <;> rw [h]
    · exact .refl t base _
    · exact (MadeAlong.refl t base _).makeDir walked s
    · rw [made] at ih
      exact ih.makeDir (walkFrom_of_makeChain made).1 s
    · rw [failed] at ih
      exact ih.append [s]

/-- A chain of directories that are all there is not made again. -/
theorem makeChain_of_walkFrom (hw : t.walkFrom base steps.reverse = .ok l)
    (hd : t.node? l = some .directory) : t.makeChain base steps = (.ok l, t) := by
  cases steps with
  | nil =>
    cases hw
    rfl
  | cons s before =>
    rw [List.reverse_cons] at hw
    obtain ⟨l₀, walked, stepped⟩ := walkFrom_concat_eq_ok_iff.1 hw
    obtain ⟨entries, there⟩ := node?_eq_directory_iff.1 hd
    simp only [makeChain, walked, makeDir, stepped, there]

/-! ## Making the directories of a path -/

theorem makeDirs_of_moves_eq_nil (h : Path.moves path = []) (t : FileTree) :
    t.makeDirs path = (.ok (), t) := by
  rw [Path.moves] at h
  simp only [makeDirs, h]

theorem makeDirs_of_failure {e : FileFailure} (ne : Path.moves path ≠ [])
    (h : Path.failure? path = some e) (t : FileTree) : t.makeDirs path = (.error e, t) := by
  obtain ⟨first, others, hm⟩ := List.exists_cons_of_ne_nil ne
  rw [Path.moves] at hm
  simp only [makeDirs, hm, h]

/-- The directories of a path are a chain. -/
theorem makeDirs_of_moves (ne : Path.moves path ≠ []) (h : Path.failure? path = none)
    (t : FileTree) : t.makeDirs path =
      ((t.makeChain (t.start path) (Path.moves path).reverse).1.map fun _ => (),
        (t.makeChain (t.start path) (Path.moves path).reverse).2) := by
  obtain ⟨first, others, hm⟩ := List.exists_cons_of_ne_nil ne
  rw [hm]
  rw [Path.moves] at hm
  simp only [makeDirs, hm, h]

/-- **Each directory that is made is where a prefix of the path leads**, whether or not all of them
can be made. -/
theorem exists_isPrefix_of_makeDirs (h : (t.makeDirs path).2.node? l ≠ t.node? l) :
    ∃ front, Path.IsPrefix front path ∧ (t.makeDirs path).2.walk front = .ok l := by
  have adds := t.addsDirectories_makeDirs path
  have directory : (t.makeDirs path).2.node? l = some .directory :=
    ((adds.node l).resolve_left h).2
  by_cases still : Path.moves path = []
  · rw [makeDirs_of_moves_eq_nil still] at h
    exact absurd rfl h
  cases wellFormed : Path.failure? path with
  | some e =>
    rw [makeDirs_of_failure still wellFormed] at h
    exact absurd rfl h
  | none =>
    have along := t.madeAlong_makeChain (t.start path) (Path.moves path).reverse
    rw [List.reverse_reverse] at along
    rw [makeDirs_of_moves still wellFormed] at h directory adds ⊢
    dsimp only at h directory adds ⊢
    obtain ⟨ms, ne, first, walked⟩ := along l h
    obtain ⟨front, isPrefix, takes, absolute, moves_eq⟩ :=
      Path.exists_isPrefix_of_moves first ne wellFormed
    refine ⟨front, isPrefix, ?_⟩
    rw [← moves_eq] at walked
    rw [walk, takes, start_congr absolute adds.current]
    exact walkFrom_of_filter walked directory

/-- **Directories that have been made are not made again**, whatever has been made and written
since. -/
theorem makeDirs_again (h : t.makeDirs path = (.ok (), t₁)) (grows : t₁.Grows t') :
    t'.makeDirs path = (.ok (), t') := by
  by_cases still : Path.moves path = []
  · exact makeDirs_of_moves_eq_nil still t'
  have adds := t.addsDirectories_makeDirs path
  rw [h] at adds
  cases wellFormed : Path.failure? path with
  | some e =>
    rw [makeDirs_of_failure still wellFormed] at h
    cases h
  | none =>
    rw [makeDirs_of_moves still wellFormed] at h ⊢
    obtain ⟨made, rfl⟩ := Prod.mk.inj h
    obtain ⟨l, chain, -⟩ := Except.map_eq_ok_iff.1 made
    obtain ⟨walked, directory⟩ := walkFrom_of_makeChain (Prod.ext chain rfl)
    have kept := grows.directory l (directory (by simpa using still))
    rw [start_congr rfl (grows.current.trans adds.current),
      makeChain_of_walkFrom (grows.walkFrom walked) kept]
    rfl

end GradleScript.FileTree
