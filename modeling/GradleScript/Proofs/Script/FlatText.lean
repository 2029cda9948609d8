import GradleScript.Proofs.Script.Pieces
import Mathlib.Data.List.Forall2

/-!
# A text as one flat join

The renderer nests the join of a block's children in the text of the block. All joins together are
one: there is a list of pieces, found by going through the statements from the outside in and from
the first to the last, and every text of the statements is the join of these pieces, with the unit
put in front of each as often as the piece is deep. The list is the same for all units and depths,
so that a change of either changes what stands in front of the pieces and nothing else.

## Main definitions

* `InPreOrder`: the pieces that are met on the way through some statements
* `SameBehind`: two lines that differ in their units alone
* `FlatText`: texts that are one join of pieces for all units and depths

## Main results

* `inPreOrder_iff`: the way through the statements gives their pieces
* `FlatText.of_join`: what follows for texts that are one join
* `flatText_render`: the texts of statements and of scripts are
-/

namespace GradleScript

/-! ## Depths -/

namespace Indent

/-- What stands in front of a line is the unit, once for each step of depth. -/
theorem times_eq_join (indent : Indent) (level : Nat) :
    indent.times level = String.join (List.replicate level indent.unit) := by
  apply String.ext
  rw [toList_times, String.toList_join, List.flatMap_def, List.map_replicate]

theorem times_add (indent : Indent) (m n : Nat) :
    indent.times (m + n) = indent.times m ++ indent.times n := by
  apply String.ext
  simp [toList_times, ← List.replicate_append_replicate]

/-- Wide runs of spaces are all written alike at every depth. -/
theorem times_spaces_of_le {n : Nat} (h : maxWidth ≤ n) (level : Nat) :
    (spaces n).times level = (spaces maxWidth).times level := by
  rw [times_eq_join, times_eq_join, unit_spaces_of_le h]

end Indent

/-! ## The way through the statements -/

/-- The statements are gone through from the first to the last, a block's children between the line
that opens it and the line that closes it. Those two stand at the depth of the block, the children
one step deeper; in a block without children there is a blank piece. -/
inductive InPreOrder : Nat → List Statement → List Piece → Prop where
  | nil {depth : Nat} : InPreOrder depth [] []
  | line {depth : Nat} {text : String} {ss : List Statement} {ps : List Piece}
    (rest : InPreOrder depth ss ps) :
    InPreOrder depth (.line text :: ss) (.line depth text :: ps)
  | keyValue {depth : Nat} {key value : String} {ss : List Statement} {ps : List Piece}
    (rest : InPreOrder depth ss ps) :
    InPreOrder depth (.keyValue key value :: ss) (.line depth (key ++ " " ++ value) :: ps)
  | emptyBlock {depth : Nat} {name : String} {ss : List Statement} {ps : List Piece}
    (rest : InPreOrder depth ss ps) :
    InPreOrder depth (.block name [] :: ss)
      (.line depth (name ++ " ".push '{') :: .blank :: .line depth (.singleton '}') :: ps)
  | block {depth : Nat} {name : String} {child : Statement} {children ss : List Statement}
    {inner ps : List Piece} (body : InPreOrder (depth + 1) (child :: children) inner)
    (rest : InPreOrder depth ss ps) :
    InPreOrder depth (.block name (child :: children) :: ss)
      (.line depth (name ++ " ".push '{') :: inner ++ .line depth (.singleton '}') :: ps)

namespace Statement

theorem piecesAll_eq_flatMap (depth : Nat) (ss : List Statement) :
    piecesAll depth ss = ss.flatMap (pieces depth) := by
  induction ss with
  | nil => rfl
  | cons s rest ih => rw [piecesAll_cons, ih, List.flatMap_cons]

theorem inPreOrder_piecesAll (depth : Nat) :
    (ss : List Statement) → InPreOrder depth ss (piecesAll depth ss)
  | [] => .nil
  | .line _ :: rest => .line (inPreOrder_piecesAll depth rest)
  | .keyValue _ _ :: rest => .keyValue (inPreOrder_piecesAll depth rest)
  | .block _ [] :: rest => .emptyBlock (inPreOrder_piecesAll depth rest)
  | .block name (child :: children) :: rest => by
    have body := inPreOrder_piecesAll (depth + 1) (child :: children)
    have after := inPreOrder_piecesAll depth rest
    have inner : between (piecesAll (depth + 1) (child :: children)) =
        piecesAll (depth + 1) (child :: children) :=
      between_of_ne_nil (by simp [pieces_ne_nil])
    have whole : InPreOrder depth (.block name (child :: children) :: rest) _ :=
      .block body after
    rwa [piecesAll_cons, pieces, inner, List.append_assoc]

end Statement

theorem InPreOrder.eq_piecesAll {depth : Nat} {ss : List Statement} {ps : List Piece}
    (h : InPreOrder depth ss ps) : ps = Statement.piecesAll depth ss := by
  induction h with
  | nil => rfl
  | line _ ih => rw [ih]; rfl
  | keyValue _ ih => rw [ih]; rfl
  | emptyBlock _ ih => rw [ih]; rfl
  | @block depth name child children ss inner ps _ _ body rest =>
    have ne : Statement.piecesAll (depth + 1) (child :: children) ≠ [] := by
      simp [Statement.pieces_ne_nil]
    rw [Statement.piecesAll_cons, Statement.pieces, Statement.between_of_ne_nil ne, ← body,
      ← rest, List.append_assoc]
    rfl

/-- **The way through the statements** gives their pieces, and nothing else. -/
theorem inPreOrder_iff {depth : Nat} {ss : List Statement} {ps : List Piece} :
    InPreOrder depth ss ps ↔ ps = Statement.piecesAll depth ss := by
  constructor
  · exact InPreOrder.eq_piecesAll
  · rintro rfl
    exact Statement.inPreOrder_piecesAll depth ss

/-- An empty line of text is as deep as its block; the line of an empty block has no depth. -/
example : (Statement.block "a" [.line "", .block "b" []]).pieces 0 =
    [.line 0 ("a ".push '{'), .line 1 "", .line 1 ("b ".push '{'), .blank,
      .line 1 (.singleton '}'), .line 0 (.singleton '}')] := by
  decide

/-! ## Texts that are one join -/

/-- The lines are both empty, or have the same text behind the same number of units. -/
inductive SameBehind (indent indent' : Indent) : String → String → Prop where
  | blank : SameBehind indent indent' "" ""
  | line (level : Nat) (text : String) :
    SameBehind indent indent' (indent.times level ++ text) (indent'.times level ++ text)

/-- What becomes of a piece when all are written some steps deeper: the units go in front of it,
unless it is blank. -/
def Piece.raise (indent : Indent) (steps : Nat) (level : Nat) : Piece → String
  | .blank => ""
  | .line depth text => indent.times steps ++ (Piece.line depth text).render indent level

/-- For every unit and at every depth, the text is the join of the pieces. -/
structure FlatText (ps : List Piece) (text : Indent → Nat → String) : Prop where
  join : ∀ indent level, text indent level = "\n".intercalate (ps.map (Piece.render indent level))
  /-- Another unit changes what stands in front of the lines, and no more. -/
  reindent : ∀ indent indent' level, ∃ lines lines',
    text indent level = "\n".intercalate lines ∧ text indent' level = "\n".intercalate lines' ∧
      List.Forall₂ (SameBehind indent indent') lines lines'
  /-- Some steps deeper, as many units are put in front of all lines that are not blank. -/
  deeper : ∀ indent level steps, text indent (level + steps) =
    "\n".intercalate (ps.map (Piece.raise indent steps level))
  /-- Runs of eight spaces or more are written alike. -/
  wide : ∀ m n level, 8 ≤ m → 8 ≤ n → text (.spaces m) level = text (.spaces n) level

theorem Piece.sameBehind_render (indent indent' : Indent) (level : Nat) (p : Piece) :
    SameBehind indent indent' (p.render indent level) (p.render indent' level) := by
  cases p with
  | blank => exact .blank
  | line depth text => exact .line (level + depth) text

theorem Piece.render_add (indent : Indent) (level steps : Nat) (p : Piece) :
    p.render indent (level + steps) = p.raise indent steps level := by
  cases p with
  | blank => rfl
  | line depth text =>
    have front : level + steps + depth = steps + (level + depth) := by omega
    rw [raise, render, render, front, Indent.times_add, String.append_assoc]

theorem Piece.render_spaces_of_le {n : Nat} (h : Indent.maxWidth ≤ n) (level : Nat) (p : Piece) :
    p.render (.spaces n) level = p.render (.spaces Indent.maxWidth) level := by
  cases p with
  | blank => rfl
  | line depth text => rw [render, render, Indent.times_spaces_of_le h]

/-- That a text is one join says all about other units and depths. -/
theorem FlatText.of_join {ps : List Piece} {text : Indent → Nat → String}
    (h : ∀ indent level,
      text indent level = "\n".intercalate (ps.map (Piece.render indent level))) :
    FlatText ps text where
  join := h
  reindent indent indent' level := by
    refine ⟨_, _, h indent level, h indent' level, ?_⟩
    rw [List.forall₂_map_left_iff, List.forall₂_map_right_iff, List.forall₂_same]
    intro p _
    exact p.sameBehind_render indent indent' level
  deeper indent level steps := by
    rw [h]
    congr 1
    exact List.map_congr_left fun p _ => p.render_add indent level steps
  wide m n level hm hn := by
    rw [h, h]
    congr 1
    exact List.map_congr_left fun p _ =>
      (p.render_spaces_of_le hm level).trans (p.render_spaces_of_le hn level).symm

/-- The texts of some statements, one below the other, are one join of their pieces. -/
theorem flatText_renderAll (ss : List Statement) :
    FlatText (Statement.piecesAll 0 ss) fun indent level =>
      "\n".intercalate (Statement.renderAll indent level ss) := by
  refine FlatText.of_join fun indent level => ?_
  have join := Statement.renderAll_join indent level 0 ss
  rw [Nat.add_zero] at join
  rw [join]
  -- without statements there is nothing to join, which is the empty line of an empty block
  cases h : Statement.piecesAll 0 ss with
  | nil => simp [Statement.between, Piece.render]
  | cons p ps => rfl

/-- **The text of a statement is one flat join of its pieces**, and so is the text of a script. The
pieces are those on the way through the statements. What stands in front of them is the unit, once
for each step of depth. -/
theorem flatText_render :
    (∀ (indent : Indent) n, indent.times n = String.join (List.replicate n indent.unit)) ∧
      (∀ s : Statement, (∀ ps, InPreOrder 0 [s] ps ↔ ps = s.pieces 0) ∧
        FlatText (s.pieces 0) fun indent level => s.render indent level) ∧
      ∀ script : Script, (∀ ps, InPreOrder 0 script.statements ps ↔ ps = script.pieces) ∧
        script.pieces = script.statements.flatMap (Statement.pieces 0) ∧
        FlatText script.pieces (fun indent level =>
          "\n".intercalate (Statement.renderAll indent level script.statements)) ∧
        ∀ indent, script.render indent =
          "\n".intercalate (script.pieces.map (Piece.render indent 0)) := by
  refine ⟨Indent.times_eq_join, fun s => ⟨?_, ?_⟩, fun script => ⟨?_, ?_, ?_, ?_⟩⟩
  · intro ps
    rw [inPreOrder_iff, Statement.piecesAll_cons, Statement.piecesAll_nil, List.append_nil]
  · exact FlatText.of_join fun indent level => s.render_eq_join indent level 0
  · intro ps
    exact inPreOrder_iff
  · exact Statement.piecesAll_eq_flatMap 0 script.statements
  · exact flatText_renderAll script.statements
  · exact script.render_eq_join

end GradleScript
