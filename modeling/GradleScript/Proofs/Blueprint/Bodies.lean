import GradleScript.Proofs.Blueprint.Blocks

/-!
# Bodies of build types

The body of a build type is a text of the user's own, and its block has one statement for each of
its lines. Nothing of the body is lost but what tells the ends of its lines apart: a carriage return
in front of a newline, and whether the last line has a newline behind it. So two bodies are written
alike exactly if they agree on the rest.

## Main definitions

* `Text.withNewlines`: a text whose lines end with newlines alone
* `Text.dropNewline`: a text without one newline at its end
* `HoldsBody`: statements that hold a body
* `WrittenAlike`: bodies that differ in the ends of their lines only

## Main results

* `Text.join_lines`: the lines of a text, joined
* `Text.lines_eq_lines_iff`: which texts have the same lines
* `holdsBody_buildTypeBlock`: the block of a build type holds its body
* `Blueprint.buildTypes_hold_bodies`: the bodies in a script
-/

namespace GradleScript

/-! ## Lines that are joined -/

namespace Text

/-- Characters with each pair of a carriage return and a newline replaced by the newline. -/
def dropReturns : List Char → List Char
  | [] => []
  | '\r' :: '\n' :: rest => '\n' :: dropReturns rest
  | c :: rest => c :: dropReturns rest

/-- A text with each pair of a carriage return and a newline replaced by the newline. Any other
carriage return stays. -/
def withNewlines (text : String) : String := String.ofList (dropReturns text.toList)

/-- Whether a text ends with a newline. -/
def endsLine (text : String) : Bool := text.toList.getLast? == some '\n'

/-- A text without the newline at its end, if it ends with one. -/
def dropNewline (text : String) : String :=
  if endsLine text then String.ofList text.toList.dropLast else text

/-- The newline that is put behind the last line of a text, if the text has one there. -/
def lastNewline (cs : List Char) : List Char :=
  if cs.getLast? = some '\n' then ['\n'] else []

theorem lineChars_eq_nil_iff {cs : List Char} : lineChars cs = [] ↔ cs = [] := by
  fun_cases lineChars cs <;> simp_all

theorem lines_eq_nil_iff {text : String} : lines text = [] ↔ text = "" := by
  rw [lines, List.map_eq_nil_iff, lineChars_eq_nil_iff, String.toList_eq_nil_iff]

theorem dropReturns_cons {c : Char} {rest : List Char}
    (h : ∀ after, c = '\r' → rest = '\n' :: after → False) :
    dropReturns (c :: rest) = c :: dropReturns rest := by
  rw [dropReturns]
  exact h

/-- A replaced text ends as it did before. -/
theorem getLast?_dropReturns (cs : List Char) : (dropReturns cs).getLast? = cs.getLast? := by
  fun_induction dropReturns cs with
  | case1 => rfl
  | case2 rest ih => rw [List.getLast?_cons, ih, List.getLast?_cons_cons, List.getLast?_cons]
  | case3 c rest _ ih => rw [List.getLast?_cons, ih, List.getLast?_cons]

/-- An empty line in front of the others puts a newline in front of their join. -/
theorem join_nil_cons (rest : List Char) :
    ['\n'].intercalate ([] :: lineChars rest) ++ lastNewline ('\n' :: rest) =
      '\n' :: (['\n'].intercalate (lineChars rest) ++ lastNewline rest) := by
  by_cases empty : rest = []
  · subst empty
    rfl
  · have more : lineChars rest ≠ [] := mt lineChars_eq_nil_iff.1 empty
    rw [List.intercalate_cons_of_ne_nil more, lastNewline, lastNewline,
      List.getLast?_cons_of_ne_nil empty]
    rfl

/-- **The lines of a text, joined,** are the text with newlines alone at their ends, but for a
newline behind the last one. -/
theorem join_lineChars (cs : List Char) :
    ['\n'].intercalate (lineChars cs) ++ lastNewline cs = dropReturns cs := by
  -- along the cut into lines: a line ends here, with or without a carriage return, or goes on
  fun_induction lineChars cs with
  | case1 => rfl
  | case2 rest ih => rw [join_nil_cons, ih, dropReturns_cons (by simp)]
  | case3 rest ih =>
    have last : lastNewline ('\r' :: '\n' :: rest) = lastNewline ('\n' :: rest) := by
      rw [lastNewline, List.getLast?_cons_of_ne_nil (by simp), lastNewline]
    rw [last, join_nil_cons, ih, dropReturns]
  | case4 c rest newline pair empty ih =>
    obtain rfl := lineChars_eq_nil_iff.1 empty
    have last : lastNewline [c] = [] := if_neg (by simpa using newline)
    rw [last, dropReturns_cons pair]
    rfl
  | case5 c rest newline pair line others e ih =>
    have ne : rest ≠ [] := by
      rintro rfl
      simp at e
    have last : lastNewline (c :: rest) = lastNewline rest := by
      rw [lastNewline, List.getLast?_cons_of_ne_nil ne, lastNewline]
    have front : ['\n'].intercalate ((c :: line) :: others) =
        c :: ['\n'].intercalate (line :: others) := by
      cases others <;> rfl
    rw [dropReturns_cons pair, last, front, List.cons_append, ← e, ih]

/-- The same for a text. -/
theorem join_lines (text : String) :
    "\n".intercalate (lines text) ++ (if endsLine text then "\n" else "") = withNewlines text := by
  have chars : (lines text).map String.toList = lineChars text.toList := by
    simp [lines, Function.comp_def]
  have last : (if endsLine text then "\n" else "").toList = lastNewline text.toList := by
    rw [endsLine, lastNewline]
    split <;> simp_all
  apply String.toList_injective
  rw [String.toList_append, String.toList_intercalate, chars, last, withNewlines]
  exact (join_lineChars text.toList).trans String.toList_ofList.symm

/-- Of two carriage returns in front of a newline one is dropped, and so is no other one. -/
example : lines "\ra\r\r\n\nb\r" = ["\ra\r", "", "b\r"] := by decide

/-- What is left without a newline at the end is the join of the lines. -/
theorem dropNewline_withNewlines (text : String) :
    dropNewline (withNewlines text) = "\n".intercalate (lines text) := by
  have ends : endsLine (withNewlines text) = endsLine text := by
    rw [endsLine, withNewlines, String.toList_ofList, getLast?_dropReturns, endsLine]
  rw [dropNewline, ends, ← join_lines]
  split
  · apply String.toList_injective
    simp
  · exact String.append_empty

end Text

/-- The bodies are both empty, or neither is, and then they differ at most in carriage returns in
front of their newlines and in one newline at the end. -/
def WrittenAlike (body body' : String) : Prop :=
  body = "" ∧ body' = "" ∨ body ≠ "" ∧ body' ≠ "" ∧
    Text.dropNewline (Text.withNewlines body) = Text.dropNewline (Text.withNewlines body')

/-- **Which texts have the same lines.** Without a newline at the end the lines can be read off
their join, as long as there is a line at all. -/
theorem Text.lines_eq_lines_iff {a b : String} : lines a = lines b ↔ WrittenAlike a b := by
  rw [WrittenAlike, dropNewline_withNewlines, dropNewline_withNewlines]
  constructor
  · intro h
    by_cases empty : a = ""
    · rw [lines_eq_nil_iff.2 empty] at h
      exact .inl ⟨empty, lines_eq_nil_iff.1 h.symm⟩
    · refine .inr ⟨empty, fun empty' => empty ?_, by rw [h]⟩
      exact lines_eq_nil_iff.1 (h.trans (lines_eq_nil_iff.2 empty'))
  · rintro (⟨rfl, rfl⟩ | ⟨ha, hb, h⟩)
    · rfl
    · exact eq_of_join_eq (fun _ => onOneLine_of_mem_lines) (fun _ => onOneLine_of_mem_lines)
        (mt lines_eq_nil_iff.1 ha) (mt lines_eq_nil_iff.1 hb) h

/-! ## Bodies in a script -/

/-- The statements between the braces of a block. -/
def Statement.children : Statement → List Statement
  | .block _ children => children
  | _ => []

/-- The statements hold a body: they are lines of text, none of which has a newline in it; joined
they are the body with newlines alone at the ends of its lines; and there is none of them exactly if
the body is empty. -/
structure HoldsBody (body : String) (ss : List Statement) : Prop where
  lines : ∃ texts : List String, ss = texts.map .line ∧ (∀ t ∈ texts, OnOneLine t) ∧
    "\n".intercalate texts ++ (if Text.endsLine body then "\n" else "") = Text.withNewlines body
  eq_nil_iff : ss = [] ↔ body = ""

namespace Blueprint

theorem children_buildTypeBlock (t : BuildType) :
    (buildTypeBlock t).children = (Text.lines t.body).map .line := rfl

/-- **The block of a build type holds its body.** -/
theorem holdsBody_buildTypeBlock (t : BuildType) :
    HoldsBody t.body (buildTypeBlock t).children where
  lines := ⟨Text.lines t.body, rfl, fun _ => onOneLine_of_mem_lines, Text.join_lines t.body⟩
  eq_nil_iff := by rw [children_buildTypeBlock, List.map_eq_nil_iff, Text.lines_eq_nil_iff]

theorem children_buildTypeBlock_eq_iff {t u : BuildType} :
    (buildTypeBlock t).children = (buildTypeBlock u).children ↔ WrittenAlike t.body u.body := by
  have line_injective : Function.Injective Statement.line := fun _ _ => Statement.line.inj
  rw [children_buildTypeBlock, children_buildTypeBlock, List.map_inj_right line_injective,
    Text.lines_eq_lines_iff]

/-- **The bodies in a script.** There is one block for each declared build type, in their order and
behind the release build type. Each has the name of its build type and holds its body, so that two
of them have the same children exactly if the bodies are written alike. -/
theorem buildTypes_hold_bodies (b : Blueprint) :
    b.script.androidBlock "buildTypes" = releaseBlock :: b.buildTypes.map buildTypeBlock ∧
      (∀ t, buildTypeBlock t = .block t.name (buildTypeBlock t).children ∧
        HoldsBody t.body (buildTypeBlock t).children) ∧
      ∀ t u, (buildTypeBlock t).children = (buildTypeBlock u).children ↔
        WrittenAlike t.body u.body :=
  ⟨b.androidBlock_buildTypes, fun t => ⟨rfl, holdsBody_buildTypeBlock t⟩,
    fun _ _ => children_buildTypeBlock_eq_iff⟩

end Blueprint

end GradleScript
