import GradleScript.FileTree
import GradleScript.Proofs.Path.Components

/-!
# Prefixes of a path

A path that is cut off behind some of its steps is a prefix of it. It is a path again, and takes
just those steps.

## Main definitions

* `Path.IsPrefix`: a path takes the first steps of another one
* `Path.moves`: the steps of a path that can lead somewhere else

## Main results

* `Path.intercalate_pieces`, `Path.pieces_intercalate`: the pieces of a path are what it is made of
* `Path.failure?_of_append`: a part of a path is as good as the path
* `Path.exists_isPrefix_of_moves`: the first moves of a path are those of a prefix of it
-/

namespace GradleScript.Path

variable {front path : String}

/-- A path takes the first steps of another one. -/
def IsPrefix (front path : String) : Prop := components front <+: components path

instance (front path : String) : Decidable (IsPrefix front path) :=
  inferInstanceAs (Decidable (components front <+: components path))

/-- The steps of a path that can lead somewhere else. -/
def moves (path : String) : List PathStep := (steps path).filter (· ≠ .stay)

/-! ## Paths made of pieces -/

/-- The pieces of a path with separators between them are the path. -/
theorem intercalate_pieces (path : String) : "/".intercalate (pieces path) = path := by
  apply String.ext
  rw [String.toList_intercalate, pieces, List.map_map]
  have same : String.toList ∘ String.ofList = id := funext fun _ => String.toList_ofList
  rw [same, List.map_id]
  exact List.intercalate_splitOn '/'

/-- What is split at a character has none left. -/
theorem notMem_of_mem_splitOn {c : Char} (cs : List Char) : ∀ p ∈ cs.splitOn c, c ∉ p := by
  induction cs with
  | nil => simp
  | cons d cs ih =>
    obtain ⟨piece, others, hs⟩ := List.exists_cons_of_ne_nil (List.splitOn_ne_nil c cs)
    rw [List.splitOn_cons_eq_if_modifyHead]
    split
    · exact List.forall_mem_cons.2 ⟨by simp, ih⟩
    · next h =>
      rw [hs, List.forall_mem_cons] at ih
      rw [hs, List.modifyHead_cons, List.forall_mem_cons, List.mem_cons, not_or]
      exact ⟨⟨fun e => h (beq_iff_eq.2 e.symm), ih.1⟩, ih.2⟩

theorem slash_notMem_of_mem_pieces {piece : String} (h : piece ∈ pieces path) :
    '/' ∉ piece.toList := by
  obtain ⟨p, hp, rfl⟩ := List.mem_map.1 h
  rw [String.toList_ofList]
  exact notMem_of_mem_splitOn _ p hp

/-- A path that is put together from pieces has these pieces. -/
theorem pieces_intercalate {ps : List String} (h : ∀ p ∈ ps, '/' ∉ p.toList) (ne : ps ≠ []) :
    pieces ("/".intercalate ps) = ps := by
  have none : ∀ p ∈ ps.map String.toList, '/' ∉ p := List.forall_mem_map.2 h
  have same : String.ofList ∘ String.toList = id := funext fun _ => String.ofList_toList
  have split := List.splitOn_intercalate '/' none (mt List.map_eq_nil_iff.1 ne)
  rw [pieces, String.toList_intercalate]
  refine (congrArg (List.map String.ofList) split).trans ?_
  rw [List.map_map, same, List.map_id]

/-! ## Cutting a path off -/

theorem failure?_eq_none_iff : failure? path = none ↔
    '\x00' ∉ path.toList ∧ path.utf8ByteSize ≤ maxPathLength ∧ path ≠ "" := by
  simp only [failure?, List.contains_iff_mem]
  split
  · next zero => simp [zero]
  · next noZero =>
    split
    · next long => simp [Nat.not_le.2 long]
    · next short => simp [noZero, Nat.not_lt.1 short]

/-- A part of a path that operations take is taken as well, unless it is empty. -/
theorem failure?_of_append {rest : String} (ne : front ≠ "")
    (h : failure? (front ++ rest) = none) : failure? front = none := by
  obtain ⟨noZero, short, -⟩ := failure?_eq_none_iff.1 h
  rw [String.toList_append, List.mem_append, not_or] at noZero
  rw [String.utf8ByteSize_append] at short
  exact failure?_eq_none_iff.2 ⟨noZero.1, Nat.le_trans (Nat.le_add_right _ _) short, ne⟩

/-- Paths that start alike and whose pieces are the first ones of another's are prefixes. -/
theorem isPrefix_of_pieces (absolute : isAbsolute front = isAbsolute path)
    (h : pieces front <+: pieces path) : IsPrefix front path := by
  obtain ⟨others, e⟩ := h
  have head : (pieces path).head? = (pieces front).head? := by
    rw [← e, head?_pieces_append]
  rw [IsPrefix, components_eq, components_eq, absolute, head, ← e, ofPieces_append,
    ← List.append_assoc]
  exact List.prefix_append _ _

/-- **The first moves of a path are those of a prefix of it**, which starts where the path does. -/
theorem exists_isPrefix_of_moves {ms : List PathStep} (h : ms <+: moves path) (ne : ms ≠ [])
    (wellFormed : failure? path = none) :
    ∃ front, IsPrefix front path ∧ failure? front = none ∧ isAbsolute front = isAbsolute path ∧
      moves front = ms := by
  obtain ⟨firstSteps, hs, rfl⟩ := List.prefix_filter_iff.1 h
  obtain ⟨ps, ⟨others, e⟩, rfl⟩ := List.prefix_filterMap_iff.1 hs
  have ps_ne : ps ≠ [] := by
    rintro rfl
    exact ne rfl
  have made : pieces ("/".intercalate ps) = ps := by
    refine pieces_intercalate (fun p hp => ?_) ps_ne
    exact slash_notMem_of_mem_pieces (e ▸ List.mem_append_left others hp)
  have front_ne : "/".intercalate ps ≠ "" := by
    intro empty
    rw [empty] at made
    exact ne (made ▸ rfl)
  obtain ⟨rest, path_eq⟩ : ∃ rest, path = "/".intercalate ps ++ rest := by
    rw [← intercalate_pieces path, ← e]
    by_cases last : others = []
    · exact ⟨"", by rw [last, List.append_nil, String.append_empty]⟩
    · exact ⟨"/" ++ "/".intercalate others, by
        rw [String.intercalate_append_of_ne_nil ps_ne last, String.append_assoc]⟩
  have absolute : isAbsolute ("/".intercalate ps) = isAbsolute path := by
    obtain ⟨c, cs, hc⟩ := List.exists_cons_of_ne_nil (mt String.toList_eq_nil_iff.1 front_ne)
    rw [path_eq, isAbsolute, isAbsolute, String.toList_append, hc]
    rfl
  refine ⟨"/".intercalate ps, isPrefix_of_pieces absolute ?_,
    failure?_of_append front_ne (path_eq ▸ wellFormed), absolute, ?_⟩
  · rw [made, ← e]
    exact List.prefix_append ps others
  · rw [moves, steps, made]

end GradleScript.Path
