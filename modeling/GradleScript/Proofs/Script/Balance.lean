import GradleScript.Load
import GradleScript.Proofs.Script.Reading
import GradleScript.Text.Lines

/-!
# Balanced indentation and braces

Whoever goes through the lines of a script from the first to the last can tell from each line how
many blocks are open there: a line that ends in an opening brace opens one, a line that is a closing
brace closes one. Every line is indented by one unit for each block that is open, and the brace that
closes a block stands where the block's first line starts.

## Main definitions

* `scan?`: counts the open blocks and checks the indentation of each line against them
* `Pairing.step`: finds the opening line of each closing brace
* `Nested`: lines that fall into texts and blocks
* `Script.Tame`: no text of the script looks like a part of its layout

## Main results

* `Nested.scan`, `Nested.pairing`: what the scans make of nested lines
* `Statement.nested_piecesAll`: the lines of tame statements are nested
* `Script.balanced`: the scans of a tame script's text
-/

namespace GradleScript

/-! ## Ends of texts -/

namespace Text

/-- A text without the white space at its ends. -/
def trim (text : String) : String :=
  String.ofList (dropBlanks (dropBlanks text.toList).reverse).reverse

/-- How many bytes of white space a line starts with. -/
def leading (line : String) : Nat :=
  byteLength (line.toList.takeWhile isBlank)

/-- The text does not start with white space. -/
def Unindented (text : String) : Prop := ∀ c ∈ text.toList.head?, isBlank c = false

instance (text : String) : Decidable (Unindented text) :=
  decidable_of_iff (text.toList.head?.all (fun c => !isBlank c) = true)
    (by cases h : text.toList.head? <;> simp [Unindented, h])

/-- The text is a part of one line. -/
def Plain (text : String) : Prop := '\n' ∉ text.toList ∧ '\r' ∉ text.toList

instance (text : String) : Decidable (Plain text) :=
  inferInstanceAs (Decidable ('\n' ∉ text.toList ∧ '\r' ∉ text.toList))

/-! ### Lines -/

theorem lineChars_singleton {c : Char} (newline : c ≠ '\n') : lineChars [c] = [[c]] := by
  simp [lineChars]

theorem lineChars_cons {c : Char} (newline : c ≠ '\n') (feed : c ≠ '\r')
    {rest line : List Char} {others : List (List Char)} (h : lineChars rest = line :: others) :
    lineChars (c :: rest) = (c :: line) :: others := by
  simp [lineChars, feed, h]

theorem lineChars_append_newline {cs : List Char} (h : '\n' ∉ cs ∧ '\r' ∉ cs) (rest : List Char) :
    lineChars (cs ++ '\n' :: rest) = cs :: lineChars rest := by
  induction cs with
  | nil => simp
  | cons c cs ih =>
    simp only [List.mem_cons, not_or] at h
    exact lineChars_cons (Ne.symm h.1.1) (Ne.symm h.2.1) (ih ⟨h.1.2, h.2.2⟩)

theorem lineChars_of_ne_nil {cs : List Char} (h : '\n' ∉ cs ∧ '\r' ∉ cs) (ne : cs ≠ []) :
    lineChars cs = [cs] := by
  induction cs with
  | nil => exact absurd rfl ne
  | cons c cs ih =>
    simp only [List.mem_cons, not_or] at h
    by_cases empty : cs = []
    · subst empty
      exact lineChars_singleton (Ne.symm h.1.1)
    · exact lineChars_cons (Ne.symm h.1.1) (Ne.symm h.2.1) (ih ⟨h.1.2, h.2.2⟩ empty)

/-- The lines of a join are those that were joined, but for an empty one at the end. -/
theorem lines_join {ls : List String} (h : ∀ l ∈ ls, Plain l) :
    lines ("\n".intercalate ls) = ls ∨ lines ("\n".intercalate ls) ++ [""] = ls := by
  induction ls with
  | nil => simp
  | cons l ls ih =>
    have first := h l (by simp)
    by_cases last : ls = []
    · subst last
      by_cases empty : l = ""
      · simp [empty]
      · left
        rw [String.intercalate_singleton, lines,
          lineChars_of_ne_nil first (mt String.toList_eq_nil_iff.1 empty)]
        simp
    · have cut : lines ("\n".intercalate (l :: ls)) = l :: lines ("\n".intercalate ls) := by
        rw [String.intercalate_cons_of_ne_nil last, lines, String.toList_append,
          String.toList_append, List.append_assoc, show "\n".toList = ['\n'] from rfl,
          List.singleton_append, lineChars_append_newline first]
        simp [lines]
      rw [cut, List.cons_append]
      simpa using ih fun m hm => h m (by simp [hm])

/-! ### Indentation -/

theorem isBlank_char (indent : Indent) : isBlank indent.char = true := by
  cases indent <;> rfl

theorem byteLength_replicate_char (indent : Indent) (n : Nat) :
    byteLength (List.replicate n indent.char) = n := by
  have size : indent.char.utf8Size = 1 := by cases indent <;> rfl
  induction n with
  | zero => rfl
  | succ n ih => rw [List.replicate_succ, byteLength_cons, size, ih, Nat.add_comm]

/-- The white space before a text that starts with none is its indentation. -/
theorem leading_times_append (indent : Indent) (depth : Nat) {text : String}
    (h : Unindented text) : leading (indent.times depth ++ text) = depth * indent.width := by
  have none : text.toList.takeWhile isBlank = [] := by
    cases e : text.toList with
    | nil => rfl
    | cons c cs => exact List.takeWhile_cons_of_neg (by simp [h c (by simp [e])])
  rw [leading, String.toList_append, Indent.times, String.toList_ofList,
    List.takeWhile_append_of_pos, none, List.append_nil, byteLength_replicate_char]
  intro c hc
  rw [List.eq_of_mem_replicate hc]
  exact isBlank_char indent

theorem trim_times_append (indent : Indent) (depth : Nat) (text : String) :
    trim (indent.times depth ++ text) = trim text := by
  have dropped : dropBlanks (indent.times depth ++ text).toList = dropBlanks text.toList := by
    rw [String.toList_append, Indent.times, String.toList_ofList, dropBlanks,
      List.dropWhile_append_of_pos]
    · rfl
    · intro c hc
      rw [List.eq_of_mem_replicate hc]
      exact isBlank_char indent
  rw [trim, trim, dropped]

end Text

/-! ## Scans -/

/-- What a line says about the blocks around it. -/
inductive LineKind where
  /-- There is nothing on the line. -/
  | empty
  /-- There is nothing but a closing brace on it. -/
  | closing
  /-- It ends in an opening brace. -/
  | opening
  | other
  deriving DecidableEq, Repr

/-- What a line says about the blocks around it. -/
def lineKind (line : String) : LineKind :=
  if line = "" then .empty
  else if Text.trim line = String.singleton '}' then .closing
  else if IsOpening line then .opening
  else .other

/-- How many blocks are open after a line when `depth` are before it, if the line is indented by
`width` for each block that is open around it. -/
def scanStep (width depth : Nat) (line : String) : Option Nat :=
  match lineKind line with
  | .empty => some depth
  | .closing =>
    if 0 < depth ∧ Text.leading line = (depth - 1) * width then some (depth - 1) else none
  | .opening => if Text.leading line = depth * width then some (depth + 1) else none
  | .other => if Text.leading line = depth * width then some depth else none

/-- How many blocks are open after all lines, if each line is indented as it has to be and no block
is closed that is not open. -/
def scan? (width : Nat) (lines : List String) : Option Nat :=
  lines.foldlM (scanStep width) 0

/-- The blocks of some lines by their first and last lines. -/
structure Pairing where
  /-- The first lines of the blocks that are open, innermost first. -/
  opened : List String
  /-- The first and last lines of the blocks that have been closed, in the order of the latter. -/
  pairs : List (String × String)
  deriving DecidableEq, Repr

/-- A line that closes a block closes the innermost one. -/
def Pairing.step (p : Pairing) (line : String) : Option Pairing :=
  match lineKind line with
  | .opening => some { p with opened := line :: p.opened }
  | .closing =>
    match p.opened with
    | [] => none
    | first :: others => some ⟨others, p.pairs ++ [(first, line)]⟩
  | _ => some p

/-- The blocks of some lines, if every closing brace belongs to one. -/
def pairing? (lines : List String) : Option Pairing :=
  lines.foldlM Pairing.step ⟨[], []⟩

/-! ### Nested lines -/

/-- Lines that stand inside `depth` blocks and fall into texts and whole blocks, with the first and
last lines of the blocks. -/
inductive Nested (width : Nat) : Nat → List String → List (String × String) → Prop
  | nil {depth : Nat} : Nested width depth [] []
  | empty {depth : Nat} {lines : List String} {pairs : List (String × String)}
    (rest : Nested width depth lines pairs) : Nested width depth ("" :: lines) pairs
  | text {depth : Nat} {line : String} {lines : List String} {pairs : List (String × String)}
    (kind : lineKind line = .other) (indented : Text.leading line = depth * width)
    (rest : Nested width depth lines pairs) : Nested width depth (line :: lines) pairs
  | block {depth : Nat} {first last : String} {body lines : List String}
    {inner pairs : List (String × String)}
    (opening : lineKind first = .opening) (indented : Text.leading first = depth * width)
    (body_nested : Nested width (depth + 1) body inner)
    (closing : lineKind last = .closing) (aligned : Text.leading last = depth * width)
    (rest : Nested width depth lines pairs) :
    Nested width depth (first :: body ++ last :: lines) (inner ++ (first, last) :: pairs)

namespace Nested

variable {width depth : Nat} {lines more : List String} {pairs others : List (String × String)}

theorem append (h : Nested width depth lines pairs) (h' : Nested width depth more others) :
    Nested width depth (lines ++ more) (pairs ++ others) := by
  induction h with
  | nil => exact h'
  | empty _ ih => exact (ih h').empty
  | text kind indented _ ih => exact (ih h').text kind indented
  | block opening indented body closing aligned _ _ ih =>
    have whole := Nested.block opening indented body closing aligned (ih h')
    simpa [List.append_assoc] using whole

/-- **Nested lines leave as many blocks open as they found**, and their indentation is right. -/
theorem scan (h : Nested width depth lines pairs) :
    lines.foldlM (scanStep width) depth = some depth := by
  induction h with
  | nil => rfl
  | empty _ ih => simpa [scanStep, lineKind] using ih
  | text kind indented _ ih => simpa [scanStep, kind, indented] using ih
  | block opening indented _ closing aligned _ body rest =>
    simp [List.foldlM_append, scanStep, opening, indented, body, closing, aligned, rest]

/-- **The closing braces of nested lines belong to the blocks among them.** -/
theorem pairing (h : Nested width depth lines pairs) (p : Pairing) :
    lines.foldlM Pairing.step p = some ⟨p.opened, p.pairs ++ pairs⟩ := by
  induction h generalizing p with
  | nil => simp
  | empty _ ih => simpa [Pairing.step, lineKind] using ih p
  | text kind _ _ ih => simpa [Pairing.step, kind] using ih p
  | block opening _ _ closing _ _ body rest =>
    simp [List.foldlM_append, Pairing.step, opening, body, closing, rest]

/-- A block ends where it starts. -/
theorem leading_eq (h : Nested width depth lines pairs) :
    ∀ p ∈ pairs, Text.leading p.1 = Text.leading p.2 := by
  induction h with
  | nil => simp
  | empty _ ih => exact ih
  | text _ _ _ ih => exact ih
  | block _ indented _ _ aligned _ body rest =>
    rw [List.forall_mem_append, List.forall_mem_cons]
    exact ⟨body, indented.trans aligned.symm, rest⟩

end Nested

/-! ## The lines of a script -/

/-- A leaf that is taken for neither the first nor the last line of a block. -/
structure TameLeaf (text : String) : Prop where
  unindented : Text.Unindented text
  trim_ne : Text.trim text ≠ String.singleton '}'
  ne_brace : text ≠ String.singleton '{'
  not_isOpening : ¬ IsOpening text

/-- The name of a block whose first line is taken for one. -/
structure TameName (name : String) : Prop where
  ne_empty : name ≠ ""
  unindented : Text.Unindented name

theorem TameName.unindented_opening {name : String} (h : TameName name) :
    Text.Unindented (Statement.opening name) := by
  obtain ⟨c, cs, hc⟩ := List.exists_cons_of_ne_nil (mt String.toList_eq_nil_iff.1 h.ne_empty)
  simpa [Text.Unindented, Statement.opening, hc] using h.unindented

namespace Statement

mutual

/-- No leaf of the statement looks like the edge of a block, and no name of a block hides one. -/
def Tame : Statement → Prop
  | .line text => TameLeaf text
  | .keyValue key value => TameLeaf (key ++ " " ++ value)
  | .block name children => TameName name ∧ TameAll children

/-- All of several statements are tame. -/
def TameAll : List Statement → Prop
  | [] => True
  | s :: rest => Tame s ∧ TameAll rest

end

mutual

/-- The first and last lines of the blocks of a statement at depth `depth`, in the order of the
latter. -/
def braces (indent : Indent) (depth : Nat) : Statement → List (String × String)
  | .line _ => []
  | .keyValue _ _ => []
  | .block name children =>
    bracesAll indent (depth + 1) children ++
      [(indent.times depth ++ opening name, indent.times depth ++ closing)]

/-- The first and last lines of the blocks of several statements. -/
def bracesAll (indent : Indent) (depth : Nat) : List Statement → List (String × String)
  | [] => []
  | s :: rest => braces indent depth s ++ bracesAll indent depth rest

end

end Statement

variable (indent : Indent) (depth : Nat)

theorem lineKind_closing : lineKind (indent.times depth ++ Statement.closing) = .closing := by
  have ne : indent.times depth ++ Statement.closing ≠ "" := by simp [Statement.closing]
  have trimmed : Text.trim (indent.times depth ++ Statement.closing) = String.singleton '}' := by
    rw [Text.trim_times_append]
    decide
  rw [lineKind, if_neg ne, if_pos trimmed]

/-- The first line of a block of a tame name is taken for one: it does not start with white space,
so that trimming leaves all of it. -/
theorem lineKind_opening {name : String} (h : TameName name) :
    lineKind (indent.times depth ++ Statement.opening name) = .opening := by
  have ne : indent.times depth ++ Statement.opening name ≠ "" := by simp [Statement.opening]
  have opens : IsOpening (indent.times depth ++ Statement.opening name) := by
    rw [IsOpening, String.toList_append]
    exact (isOpening_opening name).trans (List.suffix_append _ _)
  have trimmed :
      Text.trim (indent.times depth ++ Statement.opening name) ≠ String.singleton '}' := by
    obtain ⟨c, cs, hc⟩ := List.exists_cons_of_ne_nil (mt String.toList_eq_nil_iff.1 h.ne_empty)
    have dark : Text.isBlank c = false := h.unindented c (by simp [hc])
    have brace : Text.isBlank '{' = false := by decide
    rw [Text.trim_times_append]
    simp [Text.trim, Text.dropBlanks, Statement.opening, hc, dark, brace, ← String.toList_inj]
  rw [lineKind, if_neg ne, if_neg trimmed, if_pos opens]

/-- Only a text that is a brace, or that ends like the first line of a block, makes such a line. -/
theorem isOpening_of_times_append {text : String} (h : IsOpening (indent.times depth ++ text)) :
    text = String.singleton '{' ∨ IsOpening text := by
  rw [IsOpening, String.toList_append] at h
  by_cases long : 2 ≤ text.toList.length
  · exact .inr (List.suffix_of_suffix_length_le h (List.suffix_append _ _) long)
  · left
    obtain ⟨front, e⟩ := h
    have split : (front ++ [' ']) ++ ['{'] = (indent.times depth).toList ++ text.toList := by
      simpa using e
    rcases ht : text.toList with _ | ⟨c, _ | ⟨d, cs⟩⟩
    · have brace : '{' ∈ (indent.times depth).toList := by
        rw [ht, List.append_nil] at split
        simp [← split]
      rw [Indent.times, String.toList_ofList] at brace
      have char := List.eq_of_mem_replicate brace
      cases indent <;> cases char
    · rw [ht] at split
      obtain ⟨-, last⟩ := List.append_inj' split rfl
      exact String.toList_injective (ht.trans last.symm)
    · rw [ht] at long
      exact absurd (by simp) long

/-- A tame leaf is taken for a text, if there is anything on its line. -/
theorem lineKind_leaf {text : String} (h : TameLeaf text)
    (ne : indent.times depth ++ text ≠ "") :
    lineKind (indent.times depth ++ text) = .other := by
  have trimmed : Text.trim (indent.times depth ++ text) ≠ String.singleton '}' := by
    rw [Text.trim_times_append]
    exact h.trim_ne
  have closed : ¬ IsOpening (indent.times depth ++ text) := by
    intro ho
    rcases isOpening_of_times_append indent depth ho with e | ho
    · exact h.ne_brace e
    · exact h.not_isOpening ho
  rw [lineKind, if_neg ne, if_neg trimmed, if_neg closed]

namespace Statement

/-- An empty line between the braces of a block without children changes nothing. -/
theorem nested_between {indent : Indent} {depth : Nat} {ps : List Piece}
    {pairs : List (String × String)}
    (h : Nested indent.width depth (ps.map (Piece.render indent 0)) pairs) :
    Nested indent.width depth ((between ps).map (Piece.render indent 0)) pairs := by
  cases ps with
  | nil => exact h.empty
  | cons p ps => exact h

theorem nested_leaf (indent : Indent) (depth : Nat) {text : String} (h : TameLeaf text) :
    Nested indent.width depth [(Piece.line depth text).render indent 0] [] := by
  rw [Piece.render, Nat.zero_add]
  by_cases ne : indent.times depth ++ text = ""
  · rw [ne]
    exact Nested.nil.empty
  · exact Nested.nil.text (lineKind_leaf indent depth h ne)
      (Text.leading_times_append indent depth h.unindented)

mutual

theorem nested_pieces (indent : Indent) (depth : Nat) :
    (s : Statement) → s.Tame →
      Nested indent.width depth ((s.pieces depth).map (Piece.render indent 0))
        (s.braces indent depth)
  | .line text, h => nested_leaf indent depth h
  | .keyValue key value, h => nested_leaf indent depth h
  | .block name children, h => by
    have body := nested_between (nested_piecesAll indent (depth + 1) children h.2)
    have whole := Nested.block (lineKind_opening indent depth h.1)
      (Text.leading_times_append indent depth h.1.unindented_opening) body
      (lineKind_closing indent depth)
      (Text.leading_times_append indent depth (by decide)) Nested.nil
    simpa [pieces, braces, Piece.render] using whole

/-- **The lines of tame statements are nested.** -/
theorem nested_piecesAll (indent : Indent) (depth : Nat) :
    (ss : List Statement) → TameAll ss →
      Nested indent.width depth ((piecesAll depth ss).map (Piece.render indent 0))
        (bracesAll indent depth ss)
  | [], _ => Nested.nil
  | s :: rest, h => by
    rw [piecesAll_cons, List.map_append]
    exact (nested_pieces indent depth s h.1).append (nested_piecesAll indent depth rest h.2)

end

end Statement

namespace Script

open Statement

/-- No text of the script looks like a part of its layout. -/
structure Tame (script : Script) : Prop where
  plain : ∀ t ∈ textsAll script.statements, Text.Plain t
  tameAll : TameAll script.statements

variable {script : Script}

/-- What a scan that skips empty lines makes of a text is what it makes of the script's lines. -/
theorem foldlM_lines_render {σ : Type} {step : σ → String → Option σ}
    (skip : ∀ s, step s "" = some s) (h : script.Tame) (indent : Indent) (s : σ) :
    (Text.lines (script.render indent)).foldlM step s = (script.lines indent).foldlM step s := by
  have plain : ∀ l ∈ script.lines indent, Text.Plain l := by
    intro l hl
    refine ⟨onOneLine_lines (fun t ht => (h.plain t ht).1) l hl, ?_⟩
    refine not_mem_of_mem_lines ?_ (fun t ht => (h.plain t ht).2) l hl
    cases indent <;> simp [layoutChars, Indent.char]
  rw [render_eq_join]
  rcases Text.lines_join plain with e | e
  · rw [e]
  · calc (Text.lines ("\n".intercalate (script.lines indent))).foldlM step s
        = (Text.lines ("\n".intercalate (script.lines indent)) ++ [""]).foldlM step s := by
          simp [List.foldlM_append, skip]
      _ = (script.lines indent).foldlM step s := by rw [e]

/-- **The text of a tame script is balanced.** Whoever counts the open blocks line by line finds
every line indented by one unit for each of them, closes none that is not open and leaves none
open. The closing braces belong to the first lines of the script's own blocks and stand where these
start. -/
theorem balanced (h : script.Tame) (indent : Indent) :
    scan? indent.width (Text.lines (script.render indent)) = some 0 ∧
      pairing? (Text.lines (script.render indent)) =
        some ⟨[], bracesAll indent 0 script.statements⟩ ∧
      ∀ p ∈ bracesAll indent 0 script.statements, Text.leading p.1 = Text.leading p.2 := by
  have nested := nested_piecesAll indent 0 script.statements h.tameAll
  refine ⟨?_, ?_, nested.leading_eq⟩
  · rw [scan?, foldlM_lines_render (fun _ => rfl) h]
    exact nested.scan
  · rw [pairing?, foldlM_lines_render (fun _ => rfl) h]
    exact nested.pairing ⟨[], []⟩

/-- A block that is named like its last line, with an empty block, an empty line and braces within
a line, and with an empty line behind it. -/
def braceNames : Script :=
  ⟨[.block (.singleton '}') [.block "a" [], .line "", .keyValue "b" "{ }"], .line ""]⟩

/-- A brace counts only where it opens or closes a block. -/
theorem balanced_braceNames :
    braceNames.Tame ∧ scan? 1 (Text.lines (braceNames.render .tab)) = some 0 ∧
      pairing? (Text.lines (braceNames.render .tab)) =
        some ⟨[], [("\ta ".push '{', "\t".push '}'),
          (String.singleton '}' ++ " ".push '{', String.singleton '}')]⟩ := by
  have leaf : TameLeaf "" := ⟨by decide, by decide, by decide, by decide⟩
  have value : TameLeaf ("b" ++ " " ++ "{ }") := ⟨by decide, by decide, by decide, by decide⟩
  have h : braceNames.Tame :=
    ⟨by decide, ⟨⟨by decide, by decide⟩, ⟨⟨by decide, by decide⟩, trivial⟩, leaf, value, trivial⟩,
      leaf, trivial⟩
  obtain ⟨depth, pairs, -⟩ := balanced h .tab
  exact ⟨h, depth, pairs⟩

end Script

end GradleScript
