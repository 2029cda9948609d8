import GradleScript.Statement

/-!
# A script as a list of pieces

A statement is written as a flat list of pieces, one for each line. The pieces depend on the
statement alone: how deep each one stands and what it says. The indentation unit and the depth of
the statement only decide what is put in front of them.

## Main definitions

* `Piece`: a line with its depth, or the empty line of a block without children
* `Statement.pieces`, `Statement.piecesAll`: the pieces of a statement and of several
* `Statement.texts`, `Statement.textsAll`: the texts that they are made of

## Main results

* `Statement.render_eq_join`, `Script.render_eq_join`: a text is the join of its pieces
* `Script.lines_eq_of_render_eq`: texts are equal only if their lines are
-/

namespace GradleScript

/-- One line of a script before it is indented. -/
inductive Piece where
  /-- The line between the braces of a block without children. It is empty at every depth. -/
  | blank
  /-- A text that stands at some depth. -/
  | line (depth : Nat) (text : String)
  deriving DecidableEq, Repr

/-- The line that a piece of a statement at depth `level` makes. -/
def Piece.render (indent : Indent) (level : Nat) : Piece → String
  | .blank => ""
  | .line depth text => indent.times (level + depth) ++ text

namespace Statement

/-- The pieces between the braces of a block, when those of its children are given. -/
def between : List Piece → List Piece
  | [] => [.blank]
  | p :: ps => p :: ps

mutual

/-- The pieces of a statement that stands at depth `depth`. -/
def pieces (depth : Nat) : Statement → List Piece
  | .line text => [.line depth text]
  | .keyValue key value => [.line depth (key ++ " " ++ value)]
  | .block name children =>
    .line depth (opening name) :: between (piecesAll (depth + 1) children) ++ [.line depth closing]

/-- The pieces of several statements at one depth. -/
def piecesAll (depth : Nat) : List Statement → List Piece
  | [] => []
  | s :: rest => pieces depth s ++ piecesAll depth rest

end

@[simp] theorem piecesAll_nil (depth : Nat) : piecesAll depth [] = [] := rfl

@[simp] theorem piecesAll_cons (depth : Nat) (s : Statement) (rest : List Statement) :
    piecesAll depth (s :: rest) = pieces depth s ++ piecesAll depth rest := rfl

@[simp] theorem piecesAll_append (depth : Nat) (ss ts : List Statement) :
    piecesAll depth (ss ++ ts) = piecesAll depth ss ++ piecesAll depth ts := by
  induction ss with
  | nil => simp
  | cons s ss ih => simp [ih]

theorem between_ne_nil (ps : List Piece) : between ps ≠ [] := by
  cases ps <;> simp [between]

theorem pieces_ne_nil (depth : Nat) (s : Statement) : pieces depth s ≠ [] := by
  cases s <;> simp [pieces]

theorem piecesAll_eq_nil_iff {depth : Nat} {ss : List Statement} :
    piecesAll depth ss = [] ↔ ss = [] := by
  cases ss <;> simp [pieces_ne_nil]

theorem between_of_ne_nil {ps : List Piece} (h : ps ≠ []) : between ps = ps := by
  cases ps <;> simp_all [between]

theorem mem_between {p : Piece} {ps : List Piece} :
    p ∈ between ps ↔ p ∈ ps ∨ ps = [] ∧ p = .blank := by
  cases ps <;> simp [between]

/-- A block is the join of the line that opens it, what its children are joined of, and the line
that closes it. -/
theorem render_block_eq_join {indent : Indent} {level : Nat} {name : String}
    {children : List Statement} {inner : List String} (ne : inner ≠ [])
    (body : "\n".intercalate (renderAll indent (level + 1) children) = "\n".intercalate inner) :
    (block name children).render indent level = "\n".intercalate
      ((indent.times level ++ opening name) :: (inner ++ [indent.times level ++ closing])) := by
  rw [String.intercalate_cons_of_ne_nil (by simp),
    String.intercalate_append_of_ne_nil ne (by simp), ← body]
  simp [render, String.append_assoc]

mutual

/-- The text of a statement is the join of its pieces. -/
theorem render_eq_join (indent : Indent) (level depth : Nat) :
    (s : Statement) → s.render indent (level + depth) =
      "\n".intercalate ((s.pieces depth).map (Piece.render indent level))
  | .line text => by simp [render, pieces, Piece.render]
  | .keyValue key value => by simp [render, pieces, Piece.render, String.append_assoc]
  | .block name children => by
    have body := renderAll_join indent level (depth + 1) children
    rw [← Nat.add_assoc] at body
    rw [render_block_eq_join (by simp [between_ne_nil]) body]
    simp [pieces, Piece.render]

/-- The texts of several statements, one below the other, are the join of their pieces; no
statements leave the one empty line of a block without children. -/
theorem renderAll_join (indent : Indent) (level depth : Nat) :
    (ss : List Statement) → "\n".intercalate (renderAll indent (level + depth) ss) =
      "\n".intercalate ((between (piecesAll depth ss)).map (Piece.render indent level))
  | [] => by simp [renderAll, between, Piece.render]
  | [s] => by
    -- a statement has a piece, so that nothing stands between the braces but its own pieces
    obtain ⟨p, ps, hp⟩ := List.exists_cons_of_ne_nil (pieces_ne_nil depth s)
    simp [renderAll, render_eq_join indent level depth s, hp, between]
  | s :: t :: rest => by
    have head := render_eq_join indent level depth s
    have tail := renderAll_join indent level depth (t :: rest)
    have ne : piecesAll depth (t :: rest) ≠ [] := by simp [pieces_ne_nil]
    rw [between_of_ne_nil ne] at tail
    rw [renderAll, String.intercalate_cons_of_ne_nil (by simp [renderAll]), head, tail,
      between_of_ne_nil (by simp [pieces_ne_nil]), piecesAll_cons depth s, List.map_append,
      String.intercalate_append_of_ne_nil (by simp [pieces_ne_nil]) (by simpa using ne)]

end

end Statement

namespace Script

/-- The pieces of a script. -/
def pieces (script : Script) : List Piece := Statement.piecesAll 0 script.statements

/-- The lines of a script. -/
def lines (script : Script) (indent : Indent) : List String :=
  script.pieces.map (Piece.render indent 0)

/-- The text of a script is the join of its lines. A script without statements has no line, and
the empty text. -/
theorem render_eq_join (script : Script) (indent : Indent) :
    script.render indent = "\n".intercalate (script.lines indent) := by
  have h := Statement.renderAll_join indent 0 0 script.statements
  rw [render, h, lines, pieces]
  -- the join of no line and the join of one empty line are the same text
  cases hp : Statement.piecesAll 0 script.statements <;> simp [Statement.between, Piece.render]

end Script

/-! ## Texts without newlines

A newline in a text would be taken for the end of a line. Without one the lines of a script can be
read off its text. -/

/-- The text has no newline. -/
def OnOneLine (text : String) : Prop := '\n' ∉ text.toList

instance (text : String) : Decidable (OnOneLine text) :=
  inferInstanceAs (Decidable ('\n' ∉ text.toList))

theorem OnOneLine.append {a b : String} (ha : OnOneLine a) (hb : OnOneLine b) :
    OnOneLine (a ++ b) := by
  simp only [OnOneLine, String.toList_append, List.mem_append, not_or]
  exact ⟨ha, hb⟩

/-- A join of lines says which lines they are. -/
theorem eq_of_join_eq {as bs : List String} (ha : ∀ l ∈ as, OnOneLine l)
    (hb : ∀ l ∈ bs, OnOneLine l) (ha₀ : as ≠ []) (hb₀ : bs ≠ [])
    (h : "\n".intercalate as = "\n".intercalate bs) : as = bs := by
  -- splitting the text at its newlines gives the lines back
  have h' := congrArg (fun s : String => s.toList.splitOn '\n') h
  simp only [String.toList_intercalate] at h'
  rw [show "\n".toList = ['\n'] from rfl, List.splitOn_intercalate, List.splitOn_intercalate] at h'
  · exact (List.map_inj_right fun _ _ => String.toList_injective).1 h'
  · simpa [OnOneLine] using hb
  · simpa using hb₀
  · simpa [OnOneLine] using ha
  · simpa using ha₀

namespace Statement

mutual

/-- The texts that a statement is made of: those of its lines, its keys and values, and the names
of its blocks. -/
def texts : Statement → List String
  | .line text => [text]
  | .keyValue key value => [key, value]
  | .block name children => name :: textsAll children

/-- The texts that several statements are made of. -/
def textsAll : List Statement → List String
  | [] => []
  | s :: rest => texts s ++ textsAll rest

end

theorem mem_textsAll {text : String} {ss : List Statement} :
    text ∈ textsAll ss ↔ ∃ s ∈ ss, text ∈ s.texts := by
  induction ss with
  | nil => simp [textsAll]
  | cons s ss ih => simp [textsAll, ih]

/-- What the layout itself puts into a line: indentation, spaces and braces. -/
def layoutChars (indent : Indent) : List Char := [indent.char, ' ', '{', '}']

theorem mem_layoutChars_of_mem_times {indent : Indent} {level : Nat} {c : Char}
    (h : c ∈ (indent.times level).toList) : c ∈ layoutChars indent := by
  simp only [Indent.times, String.toList_ofList, List.mem_replicate] at h
  simp [layoutChars, h.2]

theorem mem_layoutChars_of_subset {indent : Indent} {cs : List Char} {c : Char}
    (h : cs ⊆ [' ', '{', '}']) (hc : c ∈ cs) : c ∈ layoutChars indent :=
  List.mem_cons_of_mem _ (h hc)

mutual

theorem mem_chars_of_mem_pieces (indent : Indent) (level depth : Nat) {c : Char} :
    (s : Statement) → ∀ p ∈ s.pieces depth, c ∈ (p.render indent level).toList →
      c ∈ layoutChars indent ∨ ∃ t ∈ s.texts, c ∈ t.toList
  | .line text, p, hp, hc => by
    obtain rfl : p = .line depth text := by simpa [pieces] using hp
    rcases List.mem_append.1 (String.toList_append ▸ hc) with hc | hc
    · exact .inl (mem_layoutChars_of_mem_times hc)
    · exact .inr ⟨text, by simp [texts], hc⟩
  | .keyValue key value, p, hp, hc => by
    obtain rfl : p = .line depth (key ++ " " ++ value) := by simpa [pieces] using hp
    simp only [Piece.render, String.toList_append, List.mem_append] at hc
    rcases hc with hc | (hc | hc) | hc
    · exact .inl (mem_layoutChars_of_mem_times hc)
    · exact .inr ⟨key, by simp [texts], hc⟩
    · exact .inl (mem_layoutChars_of_subset (by decide) hc)
    · exact .inr ⟨value, by simp [texts], hc⟩
  | .block name children, p, hp, hc => by
    simp only [pieces, List.cons_append, List.mem_cons, List.mem_append, List.not_mem_nil,
      or_false] at hp
    rcases hp with rfl | hp | rfl
    · simp only [Piece.render, opening, String.toList_append, List.mem_append] at hc
      rcases hc with hc | hc | hc
      · exact .inl (mem_layoutChars_of_mem_times hc)
      · exact .inr ⟨name, by simp [texts], hc⟩
      · exact .inl (mem_layoutChars_of_subset (by decide) hc)
    · rcases mem_between.1 hp with hp | ⟨-, rfl⟩
      · refine (mem_chars_of_mem_piecesAll indent level (depth + 1) children p hp hc).imp_right ?_
        rintro ⟨t, ht, hc⟩
        exact ⟨t, by simp [texts, ht], hc⟩
      · simp [Piece.render] at hc
    · simp only [Piece.render, closing, String.toList_append, List.mem_append] at hc
      rcases hc with hc | hc
      · exact .inl (mem_layoutChars_of_mem_times hc)
      · exact .inl (mem_layoutChars_of_subset (by decide) hc)

/-- A character of a line belongs to the layout or to a text. -/
theorem mem_chars_of_mem_piecesAll (indent : Indent) (level depth : Nat) {c : Char} :
    (ss : List Statement) → ∀ p ∈ piecesAll depth ss, c ∈ (p.render indent level).toList →
      c ∈ layoutChars indent ∨ ∃ t ∈ textsAll ss, c ∈ t.toList
  | [], p, hp, _ => by simp at hp
  | s :: rest, p, hp, hc => by
    rcases List.mem_append.1 hp with hp | hp
    · refine (mem_chars_of_mem_pieces indent level depth s p hp hc).imp_right ?_
      rintro ⟨t, ht, hc⟩
      exact ⟨t, by simp [textsAll, ht], hc⟩
    · refine (mem_chars_of_mem_piecesAll indent level depth rest p hp hc).imp_right ?_
      rintro ⟨t, ht, hc⟩
      exact ⟨t, by simp [textsAll, ht], hc⟩

end

end Statement

namespace Script

/-- A character that is neither in the layout nor in a text is in no line. -/
theorem not_mem_of_mem_lines {indent : Indent} {script : Script} {c : Char}
    (layout : c ∉ Statement.layoutChars indent)
    (texts : ∀ t ∈ Statement.textsAll script.statements, c ∉ t.toList) :
    ∀ l ∈ script.lines indent, c ∉ l.toList := by
  intro l hl hc
  obtain ⟨p, hp, rfl⟩ := List.mem_map.1 hl
  rcases Statement.mem_chars_of_mem_piecesAll indent 0 0 _ p hp hc with h | ⟨t, ht, h⟩
  · exact layout h
  · exact texts t ht h

/-- Texts without newlines make lines without newlines. -/
theorem onOneLine_lines {indent : Indent} {script : Script}
    (h : ∀ t ∈ Statement.textsAll script.statements, OnOneLine t) :
    ∀ l ∈ script.lines indent, OnOneLine l := by
  refine not_mem_of_mem_lines ?_ h
  cases indent <;> simp [Statement.layoutChars, Indent.char]

/-- Scripts with statements, and with no newline in their texts, have the same text only if they
have the same lines. -/
theorem lines_eq_of_render_eq {indent : Indent} {a b : Script}
    (ha : ∀ t ∈ Statement.textsAll a.statements, OnOneLine t)
    (hb : ∀ t ∈ Statement.textsAll b.statements, OnOneLine t)
    (ha₀ : a.statements ≠ []) (hb₀ : b.statements ≠ [])
    (h : a.render indent = b.render indent) : a.lines indent = b.lines indent := by
  rw [render_eq_join, render_eq_join] at h
  refine eq_of_join_eq (onOneLine_lines ha) (onOneLine_lines hb) ?_ ?_ h
  · simpa [lines, pieces, Statement.piecesAll_eq_nil_iff] using ha₀
  · simpa [lines, pieces, Statement.piecesAll_eq_nil_iff] using hb₀

end Script

end GradleScript
