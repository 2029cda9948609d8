import GradleScript.Proofs.Script.Pieces

/-!
# Reading a script back

The text of a script says which statements it has, up to the difference between a key with its
value and a line that reads the same. A reader goes by three things: a block starts with a line
that ends in an opening brace, the lines inside it are empty or indented by one unit more, and the
line that closes it is neither.

## Main definitions

* `Statement.flat`: a statement with lines in place of keys with values
* `Statement.leaves`: the texts that stand on lines of their own
* `Statement.Legible`: no leaf reads like the start of a block where there can be one

## Main results

* `flatAll_eq_of_lines_eq`: legible statements are determined by their lines
* `Script.render_eq_render_iff`: scripts have the same text only if they are the same up to
  `Statement.flat`
-/

namespace GradleScript

/-! ## Runs -/

/-- Lists that start with a run of members of `P` and go on with none agree on the run and on what
follows it. -/
theorem append_inj_of_run {α : Type} {P : α → Prop} {as bs rs ts : List α}
    (ha : ∀ a ∈ as, P a) (hb : ∀ b ∈ bs, P b) (hr : ∀ r ∈ rs.head?, ¬ P r)
    (ht : ∀ t ∈ ts.head?, ¬ P t) (h : as ++ rs = bs ++ ts) : as = bs ∧ rs = ts := by
  induction as generalizing bs with
  | nil =>
    cases bs with
    | nil => exact ⟨rfl, h⟩
    | cons b bs =>
      -- the run goes on in `bs`, where `rs` has to start without it
      rw [List.nil_append, List.cons_append] at h
      exact absurd (hb b (by simp)) (hr b (by simp [h]))
  | cons a as ih =>
    cases bs with
    | nil =>
      rw [List.nil_append, List.cons_append] at h
      exact absurd (ha a (by simp)) (ht a (by simp [← h]))
    | cons b bs =>
      rw [List.cons_append, List.cons_append, List.cons.injEq] at h
      obtain ⟨rfl, h⟩ := h
      obtain ⟨rfl, e⟩ := ih (fun x hx => ha x (by simp [hx])) (fun x hx => hb x (by simp [hx])) h
      exact ⟨rfl, e⟩

/-- The first member outside of `P` ends the run on both sides. -/
theorem append_cons_inj_of_run {α : Type} {P : α → Prop} {as bs rs ts : List α} {c d : α}
    (ha : ∀ a ∈ as, P a) (hb : ∀ b ∈ bs, P b) (hc : ¬ P c) (hd : ¬ P d)
    (h : as ++ c :: rs = bs ++ d :: ts) : as = bs ∧ c = d ∧ rs = ts := by
  obtain ⟨e, e'⟩ := append_inj_of_run ha hb (by simpa using hc) (by simpa using hd) h
  exact ⟨e, List.cons.inj e'⟩

/-! ## Lines inside a block -/

namespace Indent

variable {indent : Indent}

theorem width_pos (h : indent.unit ≠ "") : 0 < indent.width := by
  rw [Nat.pos_iff_ne_zero]
  intro h₀
  simp [unit, h₀] at h

theorem char_ne_closing (indent : Indent) : indent.char ≠ '}' := by
  cases indent <;> simp [char]

theorem times_succ_append (indent : Indent) (level : Nat) :
    indent.times (level + 1) = indent.times level ++ indent.unit := by
  apply String.ext
  simp [times, unit, Nat.add_mul, ← List.replicate_append_replicate]

/-- A line that can stand inside a block whose statements are at depth `level`. -/
def Inside (indent : Indent) (level : Nat) (line : String) : Prop :=
  line = "" ∨ (indent.times level).toList <+: line.toList

theorem inside_append {level more : Nat} (h : level ≤ more) (text : String) :
    indent.Inside level (indent.times more ++ text) := by
  obtain ⟨k, rfl⟩ := Nat.exists_eq_add_of_le h
  refine .inr ⟨List.replicate (k * indent.width) indent.char ++ text.toList, ?_⟩
  simp [times, Nat.add_mul, ← List.replicate_append_replicate]

/-- The line that closes a block does not stand inside it. -/
theorem not_inside_closing (h : indent.unit ≠ "") (level : Nat) :
    ¬ indent.Inside (level + 1) (indent.times level ++ Statement.closing) := by
  rintro (e | e)
  · simp [Statement.closing] at e
  · -- after the common indentation the unit would have to start with the brace
    rw [times_succ_append, String.toList_append, String.toList_append,
      List.prefix_append_right_inj] at e
    obtain ⟨n, hn⟩ := Nat.exists_eq_succ_of_ne_zero (Nat.ne_of_gt (width_pos h))
    rw [unit, String.toList_ofList, hn, List.replicate_succ] at e
    exact char_ne_closing indent (List.cons_prefix_cons.1 e).1

theorem times_append_ne_empty (h : indent.unit ≠ "") (level : Nat) (text : String) :
    indent.times (level + 1) ++ text ≠ "" := by
  rw [times_succ]
  simp [h]

end Indent

/-! ## Statements as they read -/

/-- The text ends like the first line of a block. -/
def IsOpening (text : String) : Prop := [' ', '{'] <:+ text.toList

instance (text : String) : Decidable (IsOpening text) :=
  inferInstanceAs (Decidable ([' ', '{'] <:+ text.toList))

theorem isOpening_opening (name : String) : IsOpening (Statement.opening name) := by
  simp [IsOpening, Statement.opening]

namespace Statement

mutual

/-- The statement with lines in place of keys with values. -/
def flat : Statement → Statement
  | .line text => .line text
  | .keyValue key value => .line (key ++ " " ++ value)
  | .block name children => .block name (flatAll children)

/-- Several statements with lines in place of keys with values. -/
def flatAll : List Statement → List Statement
  | [] => []
  | s :: rest => flat s :: flatAll rest

end

theorem flatAll_eq_map (ss : List Statement) : flatAll ss = ss.map flat := by
  induction ss with
  | nil => simp [flatAll]
  | cons s ss ih => simp [flatAll, ih]

mutual

/-- The texts of the leaves of a statement: of its lines, and of its keys with their values. -/
def leaves : Statement → List String
  | .line text => [text]
  | .keyValue key value => [key ++ " " ++ value]
  | .block _ children => leavesAll children

/-- The texts of the leaves of several statements. -/
def leavesAll : List Statement → List String
  | [] => []
  | s :: rest => leaves s ++ leavesAll rest

end

mutual

/-- The statement at depth `depth` has blocks only at depths where `nests` holds, and no leaf at
such a depth reads like the start of a block. -/
def Legible (nests : Nat → Prop) (depth : Nat) : Statement → Prop
  | .line text => nests depth → ¬ IsOpening text
  | .keyValue key value => nests depth → ¬ IsOpening (key ++ " " ++ value)
  | .block _ children => nests depth ∧ LegibleAll nests (depth + 1) children

/-- All of several statements at one depth are legible. -/
def LegibleAll (nests : Nat → Prop) (depth : Nat) : List Statement → Prop
  | [] => True
  | s :: rest => Legible nests depth s ∧ LegibleAll nests depth rest

end

theorem legibleAll_iff {nests : Nat → Prop} {depth : Nat} {ss : List Statement} :
    LegibleAll nests depth ss ↔ ∀ s ∈ ss, s.Legible nests depth := by
  induction ss with
  | nil => simp [LegibleAll]
  | cons s ss ih => simp [LegibleAll, ih]

mutual

theorem legible_of_leaves (depth : Nat) :
    (s : Statement) → (∀ t ∈ s.leaves, ¬ IsOpening t) → s.Legible (fun _ => True) depth
  | .line text, h => fun _ => h text (by simp [leaves])
  | .keyValue key value, h => fun _ => h (key ++ " " ++ value) (by simp [leaves])
  | .block _ children, h =>
    ⟨trivial, legibleAll_of_leaves (depth + 1) children fun t ht =>
      h t (by simpa [leaves] using ht)⟩

/-- Blocks may stand anywhere if no leaf reads like the start of one. -/
theorem legibleAll_of_leaves (depth : Nat) :
    (ss : List Statement) → (∀ t ∈ leavesAll ss, ¬ IsOpening t) →
      LegibleAll (fun _ => True) depth ss
  | [], _ => trivial
  | s :: rest, h =>
    ⟨legible_of_leaves depth s fun t ht => h t (by simp [leavesAll, ht]),
      legibleAll_of_leaves depth rest fun t ht => h t (by simp [leavesAll, ht])⟩

end

mutual

theorem pieces_flat (depth : Nat) : (s : Statement) → s.flat.pieces depth = s.pieces depth
  | .line text => by simp [flat]
  | .keyValue key value => by simp [flat, pieces]
  | .block name children => by simp [flat, pieces, piecesAll_flatAll (depth + 1) children]

/-- The pieces do not tell a key with its value from a line. -/
theorem piecesAll_flatAll (depth : Nat) :
    (ss : List Statement) → piecesAll depth (flatAll ss) = piecesAll depth ss
  | [] => by simp [flatAll]
  | s :: rest => by simp [flatAll, pieces_flat depth s, piecesAll_flatAll depth rest]

end

/-- A statement either stands on one line, or is a block. -/
theorem leaf_or_block (s : Statement) :
    (∃ text, (∀ depth, s.pieces depth = [.line depth text]) ∧ s.flat = .line text ∧
      ∀ nests depth, s.Legible nests depth ↔ (nests depth → ¬ IsOpening text)) ∨
    ∃ name children, s = .block name children := by
  cases s with
  | line text => exact .inl ⟨text, by simp [pieces], by simp [flat], by simp [Legible]⟩
  | keyValue key value =>
    exact .inl ⟨key ++ " " ++ value, by simp [pieces], by simp [flat], by simp [Legible]⟩
  | block name children => exact .inr ⟨name, children, rfl⟩

/-- What the first piece of a statement says stands at the depth of the statement. -/
theorem exists_pieces_eq_cons (depth : Nat) (s : Statement) :
    ∃ text ps, s.pieces depth = .line depth text :: ps := by
  cases s <;> simp [pieces]

mutual

theorem inside_of_mem_pieces (indent : Indent) {level depth : Nat} (hd : level ≤ depth) :
    (s : Statement) → ∀ p ∈ s.pieces depth, indent.Inside level (p.render indent 0)
  | .line text, p, hp => by
    obtain rfl : p = .line depth text := by simpa [pieces] using hp
    exact indent.inside_append (by omega) text
  | .keyValue key value, p, hp => by
    obtain rfl : p = .line depth (key ++ " " ++ value) := by simpa [pieces] using hp
    exact indent.inside_append (by omega) _
  | .block name children, p, hp => by
    simp only [pieces, List.cons_append, List.mem_cons, List.mem_append, List.not_mem_nil,
      or_false] at hp
    rcases hp with rfl | hp | rfl
    · exact indent.inside_append (by omega) _
    · rcases mem_between.1 hp with hp | ⟨-, rfl⟩
      · -- the children are deeper than the block, and so inside all that it is inside of
        exact inside_of_mem_piecesAll indent (by omega) children p hp
      · exact .inl rfl
    · exact indent.inside_append (by omega) _

/-- The lines of statements stand inside every block around them. -/
theorem inside_of_mem_piecesAll (indent : Indent) {level depth : Nat} (hd : level ≤ depth) :
    (ss : List Statement) → ∀ p ∈ piecesAll depth ss, indent.Inside level (p.render indent 0)
  | [], p, hp => by simp at hp
  | s :: rest, p, hp => by
    rcases List.mem_append.1 hp with hp | hp
    · exact inside_of_mem_pieces indent hd s p hp
    · exact inside_of_mem_piecesAll indent hd rest p hp

end

/-! ## The reader -/

variable {indent : Indent} {nests : Nat → Prop}

/-- The lines between the braces of a block say which lines its children have. -/
theorem lines_eq_of_between_eq (hu : indent.unit ≠ "") {depth : Nat} {ss ts : List Statement}
    (h : (between (piecesAll (depth + 1) ss)).map (Piece.render indent 0) =
      (between (piecesAll (depth + 1) ts)).map (Piece.render indent 0)) :
    (piecesAll (depth + 1) ss).map (Piece.render indent 0) =
      (piecesAll (depth + 1) ts).map (Piece.render indent 0) := by
  -- the empty line of a block without children is not the first line of any child
  have first (s : Statement) (rest : List Statement) (ls : List String) :
      (piecesAll (depth + 1) (s :: rest)).map (Piece.render indent 0) ≠ "" :: ls := by
    obtain ⟨text, ps, hp⟩ := s.exists_pieces_eq_cons (depth + 1)
    intro e
    rw [piecesAll_cons, hp, List.cons_append, List.map_cons, List.cons.injEq, Piece.render,
      Nat.zero_add] at e
    exact Indent.times_append_ne_empty hu depth text e.1
  cases ss with
  | nil =>
    cases ts with
    | nil => rfl
    | cons t ts =>
      rw [between_of_ne_nil (mt piecesAll_eq_nil_iff.1 (List.cons_ne_nil t ts))] at h
      exact absurd h.symm (first t ts _)
  | cons s ss =>
    rw [between_of_ne_nil (mt piecesAll_eq_nil_iff.1 (List.cons_ne_nil s ss))] at h
    cases ts with
    | nil => exact absurd h (first s ss _)
    | cons t ts => rwa [between_of_ne_nil (mt piecesAll_eq_nil_iff.1 (List.cons_ne_nil t ts))] at h

/-- The line that closes a block separates its children from what follows the block. -/
theorem lines_eq_of_block_eq (hu : indent.unit ≠ "") {depth : Nat} {ss ts : List Statement}
    {ls ms : List String}
    (h : (between (piecesAll (depth + 1) ss)).map (Piece.render indent 0) ++
        (indent.times depth ++ closing) :: ls =
      (between (piecesAll (depth + 1) ts)).map (Piece.render indent 0) ++
        (indent.times depth ++ closing) :: ms) :
    (piecesAll (depth + 1) ss).map (Piece.render indent 0) =
      (piecesAll (depth + 1) ts).map (Piece.render indent 0) ∧ ls = ms := by
  -- the lines of the children are a run of lines inside the block, and the closing line ends it
  have inside (us : List Statement) :
      ∀ l ∈ (between (piecesAll (depth + 1) us)).map (Piece.render indent 0),
        indent.Inside (depth + 1) l := by
    intro l hl
    obtain ⟨p, hp, rfl⟩ := List.mem_map.1 hl
    rcases mem_between.1 hp with hp | ⟨-, rfl⟩
    · exact inside_of_mem_piecesAll indent (Nat.le_refl _) us p hp
    · exact .inl rfl
  have out := Indent.not_inside_closing hu depth
  obtain ⟨e, -, e'⟩ := append_cons_inj_of_run (inside ss) (inside ts) out out h
  exact ⟨lines_eq_of_between_eq hu e, e'⟩

/-- Legible statements are determined by their lines, up to the difference between a key with its
value and a line. The induction is on the first list; the children of its first block are taken
out of the lines by the closing line. -/
theorem flatAll_eq_of_lines_eq (hu : indent.unit ≠ "") (depth : Nat) (ss ts : List Statement)
    (hs : LegibleAll nests depth ss) (ht : LegibleAll nests depth ts)
    (h : (piecesAll depth ss).map (Piece.render indent 0) =
      (piecesAll depth ts).map (Piece.render indent 0)) : flatAll ss = flatAll ts := by
  match ss, ts with
  | [], [] => rfl
  | [], t :: ts => simp [pieces_ne_nil] at h
  | s :: ss, [] => simp [pieces_ne_nil] at h
  | s :: ss, t :: ts =>
    obtain ⟨hs₁, hs₂⟩ := hs
    obtain ⟨ht₁, ht₂⟩ := ht
    rcases s.leaf_or_block with ⟨a, hp, hf, hl⟩ | ⟨name, children, rfl⟩ <;>
      rcases t.leaf_or_block with ⟨b, hp', hf', hl'⟩ | ⟨name', children', rfl⟩
    · -- two leaves: their lines have the same indentation, and so the same text
      simp only [piecesAll_cons, hp, hp', List.singleton_append, List.map_cons, List.cons.injEq,
        Piece.render, String.append_right_inj] at h
      obtain ⟨rfl, h⟩ := h
      rw [flatAll, flatAll, hf, hf', flatAll_eq_of_lines_eq hu depth ss ts hs₂ ht₂ h]
    · -- a leaf and a block: where there may be a block, no leaf reads like its first line
      simp only [piecesAll_cons, hp, pieces, List.cons_append, List.map_cons, List.cons.injEq,
        Piece.render, String.append_right_inj] at h
      exact absurd (h.1 ▸ isOpening_opening name') ((hl _ _).1 hs₁ ht₁.1)
    · simp only [piecesAll_cons, hp', pieces, List.cons_append, List.map_cons, List.cons.injEq,
        Piece.render, String.append_right_inj] at h
      exact absurd (h.1 ▸ isOpening_opening name) ((hl' _ _).1 ht₁ hs₁.1)
    · -- two blocks: the names are equal, then the children are, then what follows
      simp only [piecesAll_cons, pieces, List.cons_append, List.append_assoc, List.nil_append,
        List.map_cons, List.map_append, List.cons.injEq, Piece.render, String.append_right_inj,
        opening, String.append_left_inj, Nat.zero_add] at h
      obtain ⟨rfl, h⟩ := h
      obtain ⟨e, e'⟩ := lines_eq_of_block_eq hu h
      rw [flatAll, flatAll, flat, flat,
        flatAll_eq_of_lines_eq hu (depth + 1) children children' hs₁.2 ht₁.2 e,
        flatAll_eq_of_lines_eq hu depth ss ts hs₂ ht₂ e']
termination_by sizeOf ss

end Statement

/-! ## Scripts -/

namespace Script

open Statement

/-- A script that can be read back: it has statements, its texts have no newline, and no leaf reads
like the start of a block. -/
structure Readable (script : Script) : Prop where
  ne_nil : script.statements ≠ []
  onOneLine : ∀ t ∈ textsAll script.statements, OnOneLine t
  not_isOpening : ∀ t ∈ leavesAll script.statements, ¬ IsOpening t

variable {indent : Indent} {a b : Script}

/-- Scripts with the same statements, up to `Statement.flat`, have the same text. -/
theorem render_eq_of_flatAll_eq (indent : Indent)
    (h : flatAll a.statements = flatAll b.statements) : a.render indent = b.render indent := by
  rw [render_eq_join, render_eq_join, lines, lines, pieces, pieces,
    ← piecesAll_flatAll 0 a.statements, ← piecesAll_flatAll 0 b.statements, h]

theorem flatAll_eq_of_render_eq (hu : indent.unit ≠ "") (ha : a.Readable) (hb : b.Readable)
    (h : a.render indent = b.render indent) : flatAll a.statements = flatAll b.statements :=
  flatAll_eq_of_lines_eq hu 0 a.statements b.statements
    (legibleAll_of_leaves 0 _ ha.not_isOpening) (legibleAll_of_leaves 0 _ hb.not_isOpening)
    (lines_eq_of_render_eq ha.onOneLine hb.onOneLine ha.ne_nil hb.ne_nil h)

/-- **Rendering can be read back**: readable scripts have the same text exactly if they have the
same statements, up to the difference between a key with its value and a line. In particular the
text tells a block without children from one with an empty line in it, and a statement behind a
block from one at the end of it. -/
theorem render_eq_render_iff (hu : indent.unit ≠ "") (ha : a.Readable) (hb : b.Readable) :
    (a.render indent = b.render indent ↔ flatAll a.statements = flatAll b.statements) ∧
      (∀ front name rest, a.statements = front ++ .block name [] :: rest →
        b.statements = front ++ .block name [.line ""] :: rest →
          a.render indent ≠ b.render indent) ∧
      ∀ front name children s rest, a.statements = front ++ .block name children :: s :: rest →
        b.statements = front ++ .block name (children ++ [s]) :: rest →
          a.render indent ≠ b.render indent := by
  have read := flatAll_eq_of_render_eq hu ha hb
  refine ⟨⟨read, render_eq_of_flatAll_eq indent⟩, ?_, ?_⟩
  · intro front name rest ea eb h
    have e := read h
    rw [ea, eb, flatAll_eq_map, flatAll_eq_map] at e
    simp [flat, flatAll] at e
  · intro front name children s rest ea eb h
    have e := congrArg List.length (read h)
    rw [ea, eb, flatAll_eq_map, flatAll_eq_map] at e
    simp at e

/-- A block that holds a brace behind a tab, a statement, and an empty block. -/
def braceAbove (s : Statement) : Script :=
  ⟨[.block "" [.line ("\t".push '{'), s, .block "a" []]]⟩

/-- A key with its value reads like a line also at the end of a block and next to texts that are
braces and white space. -/
theorem render_eq_render_iff_braces :
    Indent.tab.unit ≠ "" ∧ (braceAbove (.keyValue (.singleton '}') "")).Readable ∧
      (braceAbove (.line (String.singleton '}' ++ " "))).Readable ∧
      (braceAbove (.keyValue (.singleton '}') "")).render .tab =
        (braceAbove (.line (String.singleton '}' ++ " "))).render .tab := by
  have hu : Indent.tab.unit ≠ "" := by decide
  have ha : (braceAbove (.keyValue (.singleton '}') "")).Readable :=
    ⟨by decide, by decide, by decide⟩
  have hb : (braceAbove (.line (String.singleton '}' ++ " "))).Readable :=
    ⟨by decide, by decide, by decide⟩
  exact ⟨hu, ha, hb, (render_eq_render_iff hu ha hb).1.2 (by decide)⟩

end Script

end GradleScript
