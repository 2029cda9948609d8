import GradleScript.Proofs.Load.KeySpan
import Mathlib.Data.List.TakeWhile

/-!
# The first assignment to a key

The place of a key is looked for line by line, and bytes are counted on the way: those of the lines
that are passed and those of the white space that the line starts with. What is found is the first
line that assigns to the key, and the bytes that the key takes there, whatever characters stand in
front of it.

## Main definitions

* `IsLine`: a line of a text, with what stands above and below it
* `AssignsBehind`: a line that assigns to a key, with the white space that it starts with
* `FirstAssignment`: the first such line of a text
* `Spells`: a place of a text where a word stands, in bytes

## Main results

* `isLine_iff`: the lines of a text are those that it is cut into
* `keySpan?_eq_some_iff`: the place of a key is on the first line that assigns to it
* `spells_of_append`: the bytes at a place of a text
* `keySpan?_finds_first`: the place of a key in any text
-/

namespace GradleScript

open Toml

/-! ## Lines -/

/-- A line of a text with the newline that ends it, if there is one, between what stands above and
what stands below. -/
structure IsLine (text above line below : List Char) : Prop where
  split : text = above ++ (line ++ below)
  starts : above = [] ∨ ∃ front, above = front ++ ['\n']
  ends : '\n' ∉ line ∧ below = [] ∨ ∃ body, '\n' ∉ body ∧ line = body ++ ['\n']

/-- What holds of a text with at most one line, and is kept by putting a line in front, holds of
every text. -/
theorem induction_lines {P : List Char → Prop} (last : ∀ cs, '\n' ∉ cs → P cs)
    (line : ∀ body rest, '\n' ∉ body → P rest → P (body ++ '\n' :: rest)) (cs : List Char) :
    P cs := by
  by_cases newline : '\n' ∈ cs
  · obtain ⟨body, rest, e, hb⟩ := List.eq_append_cons_of_mem newline
    rw [e]
    exact line body rest hb (induction_lines last line rest)
  · exact last cs newline
termination_by cs.length
decreasing_by
  rw [e, List.length_append, List.length_cons]
  omega

theorem linesWithEnds_last {cs : List Char} (h : '\n' ∉ cs) (ne : cs ≠ []) :
    linesWithEnds cs = [cs] := by
  have lines := linesWithEnds_append ne h []
  rw [List.append_nil] at lines
  rw [lines]
  simp [linesWithEnds]

theorem linesWithEnds_line {body : List Char} (h : '\n' ∉ body) (rest : List Char) :
    linesWithEnds (body ++ '\n' :: rest) = (body ++ ['\n']) :: linesWithEnds rest := by
  rw [linesWithEnds_append_newline]
  by_cases empty : body = []
  · subst empty
    rfl
  · rw [linesWithEnds_append empty h]
    rfl

theorem linesWithEnds_append_of_starts {above : List Char}
    (h : above = [] ∨ ∃ front, above = front ++ ['\n']) (rest : List Char) :
    linesWithEnds (above ++ rest) = linesWithEnds above ++ linesWithEnds rest := by
  rcases h with rfl | ⟨front, rfl⟩
  · rfl
  · rw [List.append_assoc, List.singleton_append, linesWithEnds_append_newline]

/-- A line is one of those that the text is cut into. -/
theorem IsLine.linesWithEnds_eq {cs above line below : List Char} (h : IsLine cs above line below)
    (ne : line ≠ []) : linesWithEnds cs = linesWithEnds above ++ line :: linesWithEnds below := by
  rw [h.split, linesWithEnds_append_of_starts h.starts]
  rcases h.ends with ⟨newline, rfl⟩ | ⟨body, newline, rfl⟩
  · rw [List.append_nil, linesWithEnds_last newline ne]
    rfl
  · rw [List.append_assoc, List.singleton_append, linesWithEnds_line newline]

/-- What a text is cut into are its lines. -/
theorem isLine_of_linesWithEnds {cs line : List Char} {before after : List (List Char)}
    (h : linesWithEnds cs = before ++ line :: after) :
    IsLine cs before.flatten line after.flatten := by
  induction cs using induction_lines generalizing before with
  | last cs newline =>
    by_cases empty : cs = []
    · subst empty
      simp [linesWithEnds] at h
    · rw [linesWithEnds_last newline empty] at h
      obtain ⟨rfl, rfl, rfl⟩ : before = [] ∧ cs = line ∧ after = [] := by
        cases before with
        | nil => simpa [eq_comm] using h
        | cons first rest => simp at h
      exact ⟨(List.append_nil _).symm, .inl rfl, .inl ⟨newline, rfl⟩⟩
  | line body rest newline ih =>
    rw [linesWithEnds_line newline] at h
    cases before with
    | nil =>
      obtain ⟨rfl, rest_eq⟩ := List.cons.inj h
      refine ⟨?_, .inl rfl, .inr ⟨body, newline, rfl⟩⟩
      rw [← rest_eq, linesWithEnds_flatten]
      simp
    | cons first others =>
      obtain ⟨rfl, tail⟩ := List.cons.inj h
      have isLine := ih tail
      refine ⟨?_, .inr ?_, isLine.ends⟩
      · conv => lhs; rw [isLine.split]
        simp
      · rcases isLine.starts with none | ⟨front, e⟩
        · exact ⟨body, by rw [List.flatten_cons, none, List.append_nil]⟩
        · exact ⟨body ++ '\n' :: front, by rw [List.flatten_cons, e]; simp⟩

/-- **The lines of a text** are those that it is cut into. -/
theorem isLine_iff {cs above line below : List Char} (ne : line ≠ []) :
    IsLine cs above line below ↔ ∃ before after, linesWithEnds cs = before ++ line :: after ∧
      above = before.flatten ∧ below = after.flatten := by
  constructor
  · intro h
    exact ⟨_, _, h.linesWithEnds_eq ne, (linesWithEnds_flatten above).symm,
      (linesWithEnds_flatten below).symm⟩
  · rintro ⟨before, after, h, rfl, rfl⟩
    exact isLine_of_linesWithEnds h

/-! ## Lines that assign -/

/-- The line assigns to the key behind the white space that it starts with: what is left of it
starts with the key, more white space and an equals sign. -/
def AssignsBehind (blanks key line : List Char) : Prop :=
  ∃ left gap rest, line = blanks ++ left ∧ left = key ++ (gap ++ '=' :: rest) ∧
    (∀ c ∈ blanks, Text.isBlank c = true) ∧ (∀ c ∈ left.head?, Text.isBlank c = false) ∧
    ∀ c ∈ gap, Text.isBlank c = true

theorem AssignsBehind.ne_nil {blanks key line : List Char} (h : AssignsBehind blanks key line) :
    line ≠ [] := by
  obtain ⟨left, gap, rest, rfl, rfl, -⟩ := h
  simp

/-- What is left of a line does not start with white space. -/
theorem head?_dropBlanks (cs : List Char) :
    ∀ c ∈ (Text.dropBlanks cs).head?, Text.isBlank c = false := by
  intro c hc
  have head := List.head?_dropWhile_not Text.isBlank cs
  rw [Text.dropBlanks] at hc
  rw [Option.mem_def.1 hc] at head
  exact head

/-- White space in front of something else is all the white space at the start. -/
theorem takeWhile_append_of_head? {blanks left : List Char}
    (blank : ∀ c ∈ blanks, Text.isBlank c = true)
    (head : ∀ c ∈ left.head?, Text.isBlank c = false) :
    (blanks ++ left).takeWhile Text.isBlank = blanks ∧ Text.dropBlanks (blanks ++ left) = left := by
  rw [List.takeWhile_append_of_pos blank, Text.dropBlanks, List.dropWhile_append_of_pos blank]
  cases left with
  | nil => simp
  | cons c left => simp [head c rfl]

/-- **When a line assigns to a key.** -/
theorem assignsBehind_iff {blanks key line : List Char} : AssignsBehind blanks key line ↔
    assigns key line = true ∧ blanks = line.takeWhile Text.isBlank := by
  constructor
  · rintro ⟨left, gap, rest, rfl, e, blank, head, blank'⟩
    obtain ⟨front, dropped⟩ := takeWhile_append_of_head? blank head
    have equals : ∀ c ∈ ('=' :: rest).head?, Text.isBlank c = false := by
      intro c hc
      cases hc
      decide
    refine ⟨assigns_iff.2 ⟨gap ++ '=' :: rest, dropped.trans e, ?_⟩, front.symm⟩
    rw [(takeWhile_append_of_head? blank' equals).2]
    rfl
  · rintro ⟨h, rfl⟩
    obtain ⟨behind, e, equals⟩ := assigns_iff.1 h
    obtain ⟨rest, he⟩ := List.head?_eq_some_iff.1 equals
    refine ⟨Text.dropBlanks line, behind.takeWhile Text.isBlank, rest,
      List.takeWhile_append_dropWhile.symm, ?_, fun _ => List.mem_takeWhile_imp,
      head?_dropBlanks line, fun _ => List.mem_takeWhile_imp⟩
    rw [e, ← he, Text.dropBlanks, List.takeWhile_append_dropWhile]

/-- The line is the first one of the text that assigns to the key. -/
structure FirstAssignment (text key above blanks line below : List Char) : Prop where
  isLine : IsLine text above line below
  assigns : AssignsBehind blanks key line
  first : ∀ above' blanks' line' below', IsLine text above' line' below' →
    AssignsBehind blanks' key line' → above.length ≤ above'.length

/-- A text is cut in front of its first assignment, and nothing above assigns to the key. -/
theorem firstAssignment_iff {text key above blanks line below : List Char} :
    FirstAssignment text key above blanks line below ↔
      ∃ before after, linesWithEnds text = before ++ line :: after ∧ above = before.flatten ∧
        below = after.flatten ∧ (∀ l ∈ before, assigns key l = false) ∧
        AssignsBehind blanks key line := by
  constructor
  · rintro ⟨isLine, found, first⟩
    obtain ⟨before, after, cut, rfl, rfl⟩ := (isLine_iff found.ne_nil).1 isLine
    refine ⟨before, after, cut, rfl, rfl, fun l hl => ?_, found⟩
    rw [Bool.eq_false_iff]
    intro earlier
    -- a line above that assigns would start further up
    obtain ⟨front, back, rfl⟩ := List.append_of_mem hl
    rw [List.append_assoc, List.cons_append] at cut
    have assigns := assignsBehind_iff.2 ⟨earlier, rfl⟩
    have le := first _ _ _ _ (isLine_of_linesWithEnds cut) assigns
    have pos := List.length_pos_iff.2 assigns.ne_nil
    rw [List.flatten_append, List.flatten_cons, List.length_append, List.length_append] at le
    omega
  · rintro ⟨before, after, cut, rfl, rfl, none, found⟩
    refine ⟨isLine_of_linesWithEnds cut, found, ?_⟩
    intro above' blanks' line' below' isLine' found'
    obtain ⟨before', after', cut', rfl, rfl⟩ := (isLine_iff found'.ne_nil).1 isLine'
    rcases List.append_eq_append_iff.1 (cut.symm.trans cut') with ⟨more, rfl, -⟩ | ⟨more, rfl, e⟩
    · rw [List.flatten_append, List.length_append]
      exact Nat.le_add_right _ _
    · cases more with
      | nil => simp
      | cons l others =>
        obtain ⟨rfl, -⟩ := List.cons.inj e
        have assigns := (assignsBehind_iff.1 found').1
        rw [none line' (by simp)] at assigns
        cases assigns

/-! ## Bytes -/

theorem utf8ByteSize_ofList_eq_byteLength (cs : List Char) :
    (String.ofList cs).utf8ByteSize = byteLength cs := by
  induction cs with
  | nil => rfl
  | cons c rest ih => rw [String.ofList_cons, String.utf8ByteSize_append, ih, byteLength_cons]; simp

/-- The word stands at a place of a text: the place is inside the text, it starts and ends between
characters, and its bytes are those of the word. -/
structure Spells (text word : String) (span : Span) : Prop where
  length : span.length = word.utf8ByteSize
  inside : span.offset + span.length ≤ text.utf8ByteSize
  starts : String.Pos.Raw.IsValid text ⟨span.offset⟩
  stops : String.Pos.Raw.IsValid text ⟨span.offset + span.length⟩
  bytes : text.toByteArray.extract span.offset (span.offset + span.length) = word.toByteArray

/-- **The bytes at a place of a text.** -/
theorem spells_of_append (before word after : String) :
    Spells (before ++ word ++ after) word ⟨before.utf8ByteSize, word.utf8ByteSize⟩ where
  length := rfl
  inside := by
    rw [String.utf8ByteSize_append, String.utf8ByteSize_append]
    exact Nat.le_add_right _ _
  starts := String.Pos.Raw.isValid_iff_exists_append.2
    ⟨before, word ++ after, String.append_assoc .., rfl⟩
  stops := String.Pos.Raw.isValid_iff_exists_append.2
    ⟨before ++ word, after, rfl, by simp [String.Pos.Raw.ext_iff]⟩
  bytes := by
    have whole : (before ++ word ++ after).toByteArray =
        before.toByteArray ++ (word.toByteArray ++ after.toByteArray) := by
      rw [String.toByteArray_append, String.toByteArray_append, ByteArray.append_assoc]
    have skipped := ByteArray.extract_append_size_add (a := before.toByteArray)
      (b := word.toByteArray ++ after.toByteArray) (i := 0) (j := word.toByteArray.size)
    rw [Nat.add_zero, String.size_toByteArray, String.size_toByteArray] at skipped
    rw [whole, skipped, ByteArray.extract_append_eq_left String.size_toByteArray.symm]

/-! ## The place of a key -/

/-- **The place of a key** is on the first line that assigns to it, behind the white space that the
line starts with. -/
theorem keySpan?_eq_some_iff {text key : String} {span : Span} : keySpan? text key = some span ↔
    ∃ above blanks line below,
      FirstAssignment text.toList key.toList above blanks line below ∧
      span = ⟨byteLength (above ++ blanks), byteLength key.toList⟩ := by
  rw [keySpan?, keySpanFrom?_eq_some_iff]
  constructor
  · rintro ⟨before, line, after, cut, none, found, rfl⟩
    refine ⟨before.flatten, line.takeWhile Text.isBlank, line, after.flatten, ?_, by simp⟩
    exact firstAssignment_iff.2
      ⟨before, after, cut, rfl, rfl, none, assignsBehind_iff.2 ⟨found, rfl⟩⟩
  · rintro ⟨above, blanks, line, below, first, rfl⟩
    obtain ⟨before, after, cut, rfl, rfl, none, found⟩ := firstAssignment_iff.1 first
    obtain ⟨assigns, rfl⟩ := assignsBehind_iff.1 found
    exact ⟨before, line, after, cut, none, assigns, by simp⟩

/-- The place of a key is found if some line assigns to it. -/
theorem isSome_keySpan?_iff {text key : String} : (keySpan? text key).isSome = true ↔
    ∃ above blanks line below,
      IsLine text.toList above line below ∧ AssignsBehind blanks key.toList line := by
  constructor
  · intro h
    obtain ⟨span, hs⟩ := Option.isSome_iff_exists.1 h
    obtain ⟨above, blanks, line, below, first, -⟩ := keySpan?_eq_some_iff.1 hs
    exact ⟨above, blanks, line, below, first.isLine, first.assigns⟩
  · rintro ⟨above, blanks, line, below, isLine, found⟩
    rw [Option.isSome_iff_ne_none, keySpan?, Ne, keySpanFrom?_eq_none_iff]
    intro none
    have mem : line ∈ linesWithEnds text.toList := by
      rw [isLine.linesWithEnds_eq found.ne_nil]
      exact List.mem_append_right _ List.mem_cons_self
    have assigns := (assignsBehind_iff.1 found).1
    rw [none line mem] at assigns
    cases assigns

/-- At the place of a key the text spells the key. -/
theorem spells_of_keySpan? {text key : String} {span : Span} (h : keySpan? text key = some span) :
    Spells text key span := by
  obtain ⟨before, after, e, rfl⟩ := exists_append_of_keySpan? h
  have whole : text = String.ofList before ++ key ++ String.ofList after := by
    apply String.toList_injective
    simp [e]
  have size (cs : List Char) := utf8ByteSize_ofList_eq_byteLength cs
  have place := spells_of_append (String.ofList before) key (String.ofList after)
  rw [← whole, size] at place
  have key_size := size key.toList
  rw [String.ofList_toList] at key_size
  rw [← key_size]
  exact place

/-- An error on a broken rule is about the text that was loaded. -/
theorem Blueprint.source_eq_of_load {source source' : Source} {violation : Violation}
    {span : Option Span} (h : load source = .error (.invalid source' violation span)) :
    source' = source := by
  unfold load at h
  split at h
  · cases h
  · split at h
    · cases h
    · split at h
      · cases h
        rfl
      · cases h

/-- At the place of such an error the text spells a key. -/
theorem Blueprint.exists_spells_of_load {source source' : Source} {violation : Violation}
    {span : Span} (h : load source = .error (.invalid source' violation (some span))) :
    ∃ key, Spells source.text key span := by
  obtain rfl := source_eq_of_load h
  obtain ⟨-, -, key, -, -, -, found⟩ := load_eq_invalid_iff.1 h
  exact ⟨key, spells_of_keySpan? found.symm⟩

/-- **The place of a key in any text**, for any key. It is found if and only if some line assigns to
the key, and it is on the first such line, behind the white space that the line starts with. It is
inside the text, between characters, and has the bytes of the key. So every error on a broken rule
points into the text. -/
theorem keySpan?_finds_first (text key : String) :
    ((keySpan? text key).isSome = true ↔ ∃ above blanks line below,
      IsLine text.toList above line below ∧ AssignsBehind blanks key.toList line) ∧
    (∀ span, keySpan? text key = some span → Spells text key span ∧
      ∃ above blanks line below,
        FirstAssignment text.toList key.toList above blanks line below ∧
        span.offset = (String.ofList (above ++ blanks)).utf8ByteSize) ∧
    ∀ name source violation span,
      Blueprint.load ⟨name, text⟩ = .error (.invalid source violation (some span)) →
        span.offset + span.length ≤ text.utf8ByteSize := by
  refine ⟨isSome_keySpan?_iff, fun span h => ⟨spells_of_keySpan? h, ?_⟩, ?_⟩
  · obtain ⟨above, blanks, line, below, first, rfl⟩ := keySpan?_eq_some_iff.1 h
    exact ⟨above, blanks, line, below, first, (utf8ByteSize_ofList_eq_byteLength _).symm⟩
  · intro name source violation span h
    obtain ⟨key, spells⟩ := Blueprint.exists_spells_of_load h
    exact spells.inside

/-- A text with a blank package, and with an extra line that assigns to the package between two
characters of white space of several bytes. The line above it starts with a longer word. -/
def wideSource : Source where
  name := "module.toml"
  text := "extra-lines = [\"\"\"\r\npackages = é\r\n\u3000package\u00a0= 1\n\"\"\"]\n" ++
    "[module]\npackage = \"\"\npath = \"m\"\n[sdk]\ncompile = 3\nmin = 1\ntarget = 2\n"

/-- The place that is found is behind 38 bytes, which are 35 characters. -/
theorem keySpan?_finds_first_wideSource :
    keySpan? wideSource.text "package" = some ⟨38, 7⟩ ∧
      Spells wideSource.text "package" ⟨38, 7⟩ ∧
      (∃ above blanks line below,
        FirstAssignment wideSource.text.toList "package".toList above blanks line below ∧
        38 = (String.ofList (above ++ blanks)).utf8ByteSize) ∧
      Blueprint.load wideSource =
        .error (.invalid wideSource .blankPackage (some ⟨38, 7⟩)) ∧
      38 + 7 ≤ wideSource.text.utf8ByteSize := by
  obtain ⟨-, located, inside⟩ := keySpan?_finds_first wideSource.text "package"
  have found : keySpan? wideSource.text "package" = some ⟨38, 7⟩ := by decide +kernel
  have failed : Blueprint.load wideSource =
      .error (.invalid wideSource .blankPackage (some ⟨38, 7⟩)) := by decide +kernel
  obtain ⟨spells, first⟩ := located _ found
  exact ⟨found, spells, first, failed, inside _ _ _ _ failed⟩

end GradleScript
