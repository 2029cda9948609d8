import GradleScript.Path

/-!
# The steps of a joined path

A separator splits a path into pieces wherever it stands, so the steps of a path are those of what
is before a separator followed by those of what is after it.

## Main definitions

* `Component.ofPieces`: the steps that pieces stand for

## Main results

* `Path.components_join`: a name below a path is one step more
* `Path.same_join_iff`: a name below two paths tells them apart as they are
-/

namespace GradleScript.Path

/-! ## Pieces -/

theorem pieces_append_slash (front rest : String) :
    pieces (front ++ "/" ++ rest) = pieces front ++ pieces rest := by
  simp only [pieces, String.toList_append, ← List.map_append, ← List.splitOn_append_cons_self]
  simp

theorem pieces_slash (path : String) : pieces (path ++ "/") = pieces path ++ [""] := by
  rw [← String.append_empty (s := path ++ "/"), pieces_append_slash]
  rfl

theorem pieces_of_not_mem {name : String} (h : '/' ∉ name.toList) : pieces name = [name] := by
  rw [pieces, List.splitOn_eq_singleton h, List.map_singleton, String.ofList_toList]

theorem pieces_ne_nil (path : String) : pieces path ≠ [] := by
  simp [pieces, List.splitOn_ne_nil]

theorem head?_pieces_append (path : String) (others : List String) :
    (pieces path ++ others).head? = (pieces path).head? := by
  obtain ⟨piece, rest, h⟩ := List.exists_cons_of_ne_nil (pieces_ne_nil path)
  rw [h, List.cons_append, List.head?_cons, List.head?_cons]

/-! ## Steps -/

/-- The steps that pieces stand for. -/
def Component.ofPieces (ps : List String) : List Component :=
  (ps.filter fun p => !isIdle p).map Component.ofPiece

theorem ofPieces_append (ps qs : List String) :
    Component.ofPieces (ps ++ qs) = Component.ofPieces ps ++ Component.ofPieces qs := by
  simp [Component.ofPieces]

/-- A separator at the end ends in nothing, which is no step. -/
theorem ofPieces_pieces_slash (path : String) :
    Component.ofPieces (pieces (path ++ "/")) = Component.ofPieces (pieces path) := by
  have nothing : Component.ofPieces [""] = [] := by decide
  rw [pieces_slash, ofPieces_append, nothing, List.append_nil]

/-- The step before the first name, if there is one, and the steps of the pieces. -/
theorem components_eq (path : String) :
    components path =
      (if isAbsolute path then [.root]
        else if (pieces path).head? = some "." then [.here] else []) ++
        Component.ofPieces (pieces path) := by
  simp only [components, Component.ofPieces]
  split
  · rfl
  · split <;> rfl

/-- What follows a separator adds its steps. -/
theorem components_append_slash (front rest : String) :
    components (front ++ "/" ++ rest) = components (front ++ "/") ++
      Component.ofPieces (pieces rest) := by
  have absolute : isAbsolute (front ++ "/" ++ rest) = isAbsolute (front ++ "/") := by
    simp only [isAbsolute, String.toList_append, List.head?_append]
    simp
  rw [components_eq, components_eq, absolute, ofPieces_pieces_slash, pieces_append_slash,
    pieces_slash, head?_pieces_append, head?_pieces_append, ofPieces_append, List.append_assoc]

/-- A separator at the end adds no step, unless it stands alone. -/
theorem components_slash {path : String} (h : path ≠ "") :
    components (path ++ "/") = components path := by
  have absolute : isAbsolute (path ++ "/") = isAbsolute path := by
    obtain ⟨c, rest, hc⟩ := List.exists_cons_of_ne_nil (mt String.toList_eq_nil_iff.1 h)
    simp [isAbsolute, hc]
  rw [components_eq, components_eq, absolute, ofPieces_pieces_slash, pieces_slash,
    head?_pieces_append]

/-- **A name below a path is one step more**, however the path ends. -/
theorem components_join {name : String} (plain : '/' ∉ name.toList) (named : isIdle name = false)
    (down : name ≠ "..") (base : String) :
    components (join base name) = components base ++ [.name name] := by
  have relative : isAbsolute name = false := by
    simp only [isAbsolute, beq_eq_false_iff_ne, ne_eq]
    exact fun h => plain (List.mem_of_head? h)
  have step : Component.ofPieces (pieces name) = [.name name] := by
    rw [pieces_of_not_mem plain]
    simp [Component.ofPieces, named, Component.ofPiece, down]
  rcases List.eq_nil_or_concat base.toList with h | ⟨front, last, h⟩
  · obtain rfl : base = "" := String.toList_eq_nil_iff.1 h
    have dot : name ≠ "." := by
      rintro rfl
      exact absurd named (by decide)
    have none_before : components "" = [] := by decide
    rw [join_empty_left, components_eq, step, pieces_of_not_mem plain, none_before]
    simp [relative, dot]
  · have ne : base ≠ "" := by
      rintro rfl
      simp at h
    by_cases hl : last = '/'
    · subst hl
      obtain rfl : base = String.ofList front ++ "/" := String.ext (by simp [h])
      rw [join, relative, ← step, ← components_append_slash]
      simp
    · rw [join, relative, ← components_slash ne, ← step, ← components_append_slash, h]
      simp [hl]

/-- With the same name below them, paths take the same steps exactly if they did without it. -/
theorem same_join_iff {name : String} (plain : '/' ∉ name.toList) (named : isIdle name = false)
    (down : name ≠ "..") (a b : String) :
    same (join a name) (join b name) = true ↔ same a b = true := by
  rw [same, same, beq_iff_eq, beq_iff_eq, components_join plain named down,
    components_join plain named down]
  exact List.append_left_inj _

end GradleScript.Path
