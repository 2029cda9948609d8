import GradleScript.Proofs.Script.Pieces

/-!
# Places in a script

A place is a gap in the statements of a script, at the top or in blocks within blocks. What is
written above it and below it does not depend on what is put there, so a statement that is put there
is inserted between two texts that stay as they were.

## Main definitions

* `Place`, `Place.fill`: a gap in a list of statements, and the list with statements in the gap
* `Place.textAbove`, `Place.textBelow`: what is written on the two sides of a gap
* `Insertion`: a script that is another one with one statement put in

## Main results

* `Place.join_fill`: the text of a filled gap, nested blocks and all, is one join of lines
* `Place.render_fill`: it is the text above, the lines of what is put in, and the text below
* `Insertion.of_fill`: a statement that is put in is one insertion into the text
-/

namespace GradleScript

open Statement

/-- The texts below each other, a newline behind each of them. -/
def endEach (texts : List String) : String :=
  String.join (texts.map (· ++ "\n"))

@[simp] theorem endEach_nil : endEach [] = "" := rfl

@[simp] theorem endEach_singleton (text : String) : endEach [text] = text ++ "\n" := by
  simp [endEach]

theorem endEach_append (as bs : List String) :
    endEach (as ++ bs) = endEach as ++ endEach bs := by
  simp [endEach]

/-- In a join all texts but the last ones have a newline behind them. -/
theorem join_append_eq_endEach (as : List String) {bs : List String} (h : bs ≠ []) :
    "\n".intercalate (as ++ bs) = endEach as ++ "\n".intercalate bs := by
  induction as with
  | nil => simp
  | cons a as ih =>
    rw [List.cons_append, String.intercalate_cons_of_ne_nil (by simp [h]), ih,
      show a :: as = [a] ++ as from rfl, endEach_append, endEach_singleton]
    simp only [String.append_assoc]

/-- A text in a join can be a join itself. -/
theorem join_flatten (as bs : List String) {ms : List String} (h : ms ≠ []) :
    "\n".intercalate (as ++ "\n".intercalate ms :: bs) = "\n".intercalate (as ++ (ms ++ bs)) := by
  rw [join_append_eq_endEach as (by simp), join_append_eq_endEach as (by simp [h])]
  cases bs with
  | nil => simp
  | cons b bs =>
    rw [String.intercalate_cons_of_ne_nil (by simp),
      String.intercalate_append_of_ne_nil h (by simp)]

/-- A gap in a list of statements, which may be in a block of the list. -/
inductive Place where
  /-- The gap between two runs of statements. -/
  | gap (before after : List Statement)
  /-- A gap in the block of name `name`, which stands between two runs of statements. -/
  | inside (before : List Statement) (name : String) (place : Place) (after : List Statement)

namespace Place

/-- The statements with the gap filled. -/
def fill : Place → List Statement → List Statement
  | gap before after, ss => before ++ ss ++ after
  | inside before name place after, ss => before ++ .block name (place.fill ss) :: after

/-- The number of blocks that the gap is in. -/
def depth : Place → Nat
  | gap .. => 0
  | inside _ _ place _ => place.depth + 1

/-- The list that the gap is in has statements. A block without statements has an empty line, which
goes away when a statement is put in. -/
def Occupied : Place → Prop
  | gap before after => before ++ after ≠ []
  | inside _ _ place _ => place.Occupied

/-- The texts above the gap: of the statements before it, and of what opens its blocks. -/
def linesAbove (indent : Indent) (level : Nat) : Place → List String
  | gap before _ => renderAll indent level before
  | inside before name place _ =>
    renderAll indent level before ++
      (indent.times level ++ opening name) :: place.linesAbove indent (level + 1)

/-- The texts below the gap: of the statements after it, and of what closes its blocks. -/
def linesBelow (indent : Indent) (level : Nat) : Place → List String
  | gap _ after => renderAll indent level after
  | inside _ _ place after =>
    place.linesBelow indent (level + 1) ++
      (indent.times level ++ closing) :: renderAll indent level after

/-- What is written above the gap of a script. -/
def textAbove (place : Place) (indent : Indent) : String :=
  endEach (place.linesAbove indent 0)

/-- What is written below the gap of a script. -/
def textBelow (place : Place) (indent : Indent) : String :=
  "\n".intercalate (place.linesBelow indent 0)

theorem Occupied.lines_ne_nil {place : Place} (h : place.Occupied) (indent : Indent) (level : Nat)
    (lines : List String) :
    place.linesAbove indent level ++ (lines ++ place.linesBelow indent level) ≠ [] := by
  cases place with
  | gap before after =>
    simp only [linesAbove, linesBelow, renderAll_eq_map, ne_eq, List.append_eq_nil_iff,
      List.map_eq_nil_iff]
    exact fun none => h (List.append_eq_nil_iff.2 ⟨none.1, none.2.2⟩)
  | inside before name place after => simp [linesAbove]

/-- The text of a filled gap is one join: blocks do not show but in the lines that open and close
them. -/
theorem join_fill {place : Place} (occupied : place.Occupied) (indent : Indent) (level : Nat)
    (ss : List Statement) :
    "\n".intercalate (renderAll indent level (place.fill ss)) =
      "\n".intercalate (place.linesAbove indent level ++
        (renderAll indent (level + place.depth) ss ++ place.linesBelow indent level)) := by
  induction place generalizing level with
  | gap before after => simp [fill, linesAbove, linesBelow, depth, renderAll_eq_map]
  | inside before name place after ih =>
    have inside_occupied : place.Occupied := occupied
    have inner_ne := inside_occupied.lines_ne_nil indent (level + 1)
      (renderAll indent (level + 1 + place.depth) ss)
    have statements : renderAll indent level ((inside before name place after).fill ss) =
        renderAll indent level before ++
          (Statement.block name (place.fill ss)).render indent level ::
            renderAll indent level after := by
      simp [fill, renderAll_eq_map]
    have deeper : level + (inside before name place after).depth = level + 1 + place.depth := by
      rw [depth, Nat.add_assoc, Nat.add_comm 1]
    rw [statements, render_block_eq_join inner_ne (ih inside_occupied (level + 1)),
      join_flatten _ _ (by simp), deeper]
    simp [linesAbove, linesBelow]

/-- **A filled gap has the text above it, the lines of what is put in, and the text below it.** -/
theorem render_fill {place : Place} {indent : Indent} (occupied : place.Occupied)
    (followed : place.linesBelow indent 0 ≠ []) (ss : List Statement) :
    (Script.mk (place.fill ss)).render indent =
      place.textAbove indent ++ endEach (renderAll indent place.depth ss) ++
        place.textBelow indent := by
  have lines := join_fill occupied indent 0 ss
  rw [Nat.zero_add] at lines
  rw [Script.render, lines, join_append_eq_endEach _ (by simp [followed]),
    join_append_eq_endEach _ followed, textAbove, textBelow, String.append_assoc]

end Place

/-- The script `new` is the script `old` with one statement put in at depth `level`, and its text is
the text of `old` with the lines of that statement put in. -/
structure Insertion (old new : Script) (place : Place) (level : Nat) (s : Statement) : Prop where
  depth : place.depth = level
  old_statements : old.statements = place.fill []
  new_statements : new.statements = place.fill [s]
  old_text : ∀ indent, old.render indent = place.textAbove indent ++ place.textBelow indent
  new_text : ∀ indent, new.render indent =
    place.textAbove indent ++ (s.render indent level ++ "\n") ++ place.textBelow indent

/-- A statement that is put in is one insertion into the text. -/
theorem Insertion.of_fill {old new : Script} {place : Place} {s : Statement}
    (occupied : place.Occupied) (followed : ∀ indent, place.linesBelow indent 0 ≠ [])
    (old_statements : old.statements = place.fill [])
    (new_statements : new.statements = place.fill [s]) :
    Insertion old new place place.depth s where
  depth := rfl
  old_statements
  new_statements
  old_text indent := by
    have text := Place.render_fill occupied (followed indent) []
    rw [← old_statements] at text
    simpa [renderAll] using text
  new_text indent := by
    have text := Place.render_fill occupied (followed indent) [s]
    rw [← new_statements] at text
    simpa [renderAll] using text

end GradleScript
