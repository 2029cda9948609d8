import GradleScript.Proofs.Load.Conformance
import GradleScript.Proofs.Toml.HeadedKeys
import Mathlib.Data.List.Basic

/-!
# The place that an error points at

An error on a broken rule points at the first line of the text that assigns to the key of the rule,
whatever that line belongs to: it may stand in another table, or inside a text of several lines. If
the table of the key has a header of its own, then the error points at the key itself exactly if the
key is written without quotation marks and no line above it assigns to the same word.

## Main definitions

* `IsPlain`: the words that a line can assign to
* `Violation.place?`: the table and the key that a broken rule is about
* `Value.headedKey?`: a key of a table that has a header of its own

## Main results

* `keySpanFrom?_eq_some_iff`: what is found among lines
* `exists_append_of_keySpan?`: what stands at the place of a key
* `keySpan?_eq_some_iff_of_startsLine`: when the key that starts a line is found
* `Blueprint.span_eq_iff`: when an error points at the key that it is about
-/

namespace GradleScript

open Toml

/-! ## Lines of a text -/

theorem linesWithEnds_flatten (cs : List Char) : (linesWithEnds cs).flatten = cs := by
  induction cs with
  | nil => rfl
  | cons c rest ih =>
    rw [linesWithEnds]
    split
    · rw [List.flatten_cons, ih, List.singleton_append]
    · split
      · next e =>
        rw [e] at ih
        rw [← ih]
        rfl
      · next line others e =>
        rw [e] at ih
        rw [← ih]
        rfl

/-- A newline ends a line, whatever follows. -/
theorem linesWithEnds_append_newline (above rest : List Char) :
    linesWithEnds (above ++ '\n' :: rest) =
      linesWithEnds (above ++ ['\n']) ++ linesWithEnds rest := by
  induction above with
  | nil => rfl
  | cons c above ih =>
    rw [List.cons_append, List.cons_append, linesWithEnds, linesWithEnds, ih]
    split
    · rfl
    · cases h : linesWithEnds (above ++ ['\n']) with
      | nil => 
        have empty := congrArg List.flatten h
        rw [linesWithEnds_flatten] at empty
        simp at empty
      | cons line others => rfl

theorem mem_of_mem_linesWithEnds {cs line : List Char} (h : line ∈ linesWithEnds cs) {c : Char}
    (hc : c ∈ line) : c ∈ cs := by
  rw [← linesWithEnds_flatten cs]
  exact List.mem_flatten.2 ⟨line, h, hc⟩

/-- Characters without a newline belong to the first line. -/
theorem linesWithEnds_append {front : List Char} (hne : front ≠ []) (h : '\n' ∉ front)
    (rest : List Char) : linesWithEnds (front ++ rest) =
      (front ++ (linesWithEnds rest).headD []) :: (linesWithEnds rest).tail := by
  induction front with
  | nil => exact absurd rfl hne
  | cons c front ih =>
    rw [List.mem_cons, not_or] at h
    rw [List.cons_append, linesWithEnds, if_neg (Ne.symm h.1)]
    by_cases last : front = []
    · rw [last, List.nil_append]
      cases linesWithEnds rest <;> rfl
    · rw [ih last h.2]
      rfl

/-- Two fronts of a text with the same number of bytes are the same. -/
theorem eq_of_byteLength_eq {as bs xs ys : List Char} (e : as ++ xs = bs ++ ys)
    (h : byteLength as = byteLength bs) : as = bs := by
  induction as generalizing bs with
  | nil =>
    cases bs with
    | nil => rfl
    | cons b bs =>
      have size := b.utf8Size_pos
      simp at h
      omega
  | cons a as ih =>
    cases bs with
    | nil =>
      have size := a.utf8Size_pos
      simp at h
      omega
    | cons b bs =>
      obtain ⟨rfl, tails⟩ := List.cons.inj e
      simp only [byteLength_cons, Nat.add_left_cancel_iff] at h
      rw [ih tails h]

/-! ## Lines that assign to a key -/

theorem assigns_iff {key line : List Char} : assigns key line = true ↔
    ∃ rest, Text.dropBlanks line = key ++ rest ∧ (Text.dropBlanks rest).head? = some '=' := by
  unfold assigns
  split
  · next rest e =>
    rw [List.isPrefixOf?_eq_some_iff_append_eq] at e
    simp [← e]
  · next none =>
    refine iff_of_false (by simp) ?_
    rintro ⟨rest, e, -⟩
    rw [List.isPrefixOf?_eq_some_iff_append_eq.2 e.symm] at none
    cases none

/-- White space assigns to nothing. -/
theorem not_assigns_of_blank {key line : List Char} (hk : key ≠ [])
    (h : ∀ c ∈ line, Text.isBlank c = true) : assigns key line = false := by
  rw [Bool.eq_false_iff, Ne, assigns_iff, Text.dropBlanks_eq_nil_iff.2 h]
  rintro ⟨rest, e, -⟩
  exact hk (List.append_eq_nil_iff.1 e.symm).1

theorem keySpanFrom?_append (key : List Char) (offset : Nat) (lines more : List (List Char)) :
    keySpanFrom? key offset (lines ++ more) =
      (keySpanFrom? key offset lines).or
        (keySpanFrom? key (offset + byteLength lines.flatten) more) := by
  induction lines generalizing offset with
  | nil => simp [keySpanFrom?]
  | cons line rest ih =>
    rw [List.cons_append, keySpanFrom?, keySpanFrom?]
    split
    · rfl
    · rw [ih, List.flatten_cons, byteLength_append, Nat.add_assoc]

theorem keySpanFrom?_eq_none_iff {key : List Char} {offset : Nat} {lines : List (List Char)} :
    keySpanFrom? key offset lines = none ↔ ∀ line ∈ lines, assigns key line = false := by
  induction lines generalizing offset with
  | nil => simp [keySpanFrom?]
  | cons line rest ih =>
    rw [keySpanFrom?, List.forall_mem_cons]
    split
    · next h => simp [h]
    · next h => simp [ih, h]

/-- What is found among lines is on the first one that assigns to the key. -/
theorem keySpanFrom?_eq_some_iff {key : List Char} {offset : Nat} {lines : List (List Char)}
    {span : Span} : keySpanFrom? key offset lines = some span ↔
      ∃ before line after, lines = before ++ line :: after ∧
        (∀ l ∈ before, assigns key l = false) ∧ assigns key line = true ∧
        span = ⟨offset + byteLength (before.flatten ++ line.takeWhile Text.isBlank),
          byteLength key⟩ := by
  constructor
  · intro h
    induction lines generalizing offset with
    | nil => cases h
    | cons first rest ih =>
      rw [keySpanFrom?] at h
      split at h
      · next here =>
        cases h
        exact ⟨[], first, rest, rfl, by simp, here, rfl⟩
      · next later =>
        obtain ⟨before, line, after, rfl, none, found, rfl⟩ := ih h
        refine ⟨first :: before, line, after, rfl, ?_, found, by simp [Nat.add_assoc]⟩
        exact List.forall_mem_cons.2 ⟨by simpa using later, none⟩
  · rintro ⟨before, line, after, rfl, none, found, rfl⟩
    rw [keySpanFrom?_append, keySpanFrom?_eq_none_iff.2 none, Option.none_or, keySpanFrom?,
      if_pos found, byteLength_append, Nat.add_assoc]

/-- Where a key is found, the lines have it. -/
theorem exists_append_of_keySpanFrom? {key : List Char} {offset : Nat} {lines : List (List Char)}
    {span : Span} (h : keySpanFrom? key offset lines = some span) :
    ∃ before after, lines.flatten = before ++ key ++ after ∧
      span = ⟨offset + byteLength before, byteLength key⟩ := by
  obtain ⟨above, line, below, rfl, -, found, rfl⟩ := keySpanFrom?_eq_some_iff.1 h
  obtain ⟨after, e, -⟩ := assigns_iff.1 found
  have split : line = line.takeWhile Text.isBlank ++ (key ++ after) := by
    rw [← e, Text.dropBlanks, List.takeWhile_append_dropWhile]
  refine ⟨above.flatten ++ line.takeWhile Text.isBlank, after ++ below.flatten, ?_, rfl⟩
  calc (above ++ line :: below).flatten
      = above.flatten ++ (line ++ below.flatten) := by rw [List.flatten_append, List.flatten_cons]
    _ = above.flatten ++ line.takeWhile Text.isBlank ++ key ++ (after ++ below.flatten) := by
        conv => lhs; rw [split]
        simp only [List.append_assoc]

/-- **The place of a key** in a text is one where the text has the key. -/
theorem exists_append_of_keySpan? {text key : String} {span : Span}
    (h : keySpan? text key = some span) :
    ∃ before after, text.toList = before ++ key.toList ++ after ∧
      span = ⟨byteLength before, byteLength key.toList⟩ := by
  obtain ⟨before, after, e, rfl⟩ := exists_append_of_keySpanFrom? h
  rw [linesWithEnds_flatten] at e
  exact ⟨before, after, e, by rw [Nat.zero_add]⟩

/-! ## Keys that start lines -/

/-- A word that a line can assign to: it stays on one line, and starts neither with white space nor
with a quotation mark. -/
structure IsPlain (key : List Char) : Prop where
  head : ∃ c cs, key = c :: cs ∧ Text.isBlank c = false ∧ c ≠ '"' ∧ c ≠ '\''
  oneLine : '\n' ∉ key

theorem IsPlain.ne_nil {key : List Char} (h : IsPlain key) : key ≠ [] := by
  obtain ⟨c, cs, rfl, -⟩ := h.head
  simp

theorem IsPlain.byteLength_pos {key : List Char} (h : IsPlain key) : 0 < byteLength key := by
  obtain ⟨c, cs, rfl, -⟩ := h.head
  rw [byteLength_cons]
  exact Nat.add_pos_left c.utf8Size_pos _

namespace Toml.IsGap

variable {gap : List Char}

theorem isBlank (h : IsGap gap) : ∀ c ∈ gap, Text.isBlank c = true := by
  intro c hc
  rcases h c hc with rfl | rfl <;> decide

theorem newline_notMem (h : IsGap gap) : '\n' ∉ gap := by
  intro hc
  rcases h _ hc with e | e <;> cases e

theorem dropBlanks_append (h : IsGap gap) (cs : List Char) :
    Text.dropBlanks (gap ++ cs) = Text.dropBlanks cs := by
  rw [Text.dropBlanks, List.dropWhile_append_of_pos h.isBlank]
  rfl

end Toml.IsGap

/-- A line that starts with the key and an equals sign assigns to the key. -/
theorem assigns_of_startsLine {key gap gap' : List Char} (plain : IsPlain key)
    (isGap : IsGap gap) (isGap' : IsGap gap') (rest : List Char) :
    assigns key (gap ++ (key ++ (gap' ++ '=' :: rest))) = true := by
  obtain ⟨c, cs, rfl, notBlank, -⟩ := plain.head
  refine assigns_iff.2 ⟨gap' ++ '=' :: rest, ?_, ?_⟩
  · rw [isGap.dropBlanks_append, List.cons_append, Text.dropBlanks,
      List.dropWhile_cons_of_neg (by simp [notBlank])]
  · rw [isGap'.dropBlanks_append]
    rfl

/-- The place of the key on such a line is behind the white space that the line starts with. -/
theorem keySpanFrom?_of_startsLine {key gap gap' : List Char} (plain : IsPlain key)
    (isGap : IsGap gap) (isGap' : IsGap gap') (offset : Nat) (rest : List Char) :
    keySpanFrom? key offset (linesWithEnds (gap ++ (key ++ (gap' ++ '=' :: rest)))) =
      some ⟨offset + byteLength gap, byteLength key⟩ := by
  have oneLine : '\n' ∉ gap ++ (key ++ (gap' ++ ['='])) := by
    simp [isGap.newline_notMem, isGap'.newline_notMem, plain.oneLine]
  have lines : linesWithEnds (gap ++ (key ++ (gap' ++ '=' :: rest))) =
      (gap ++ (key ++ (gap' ++ '=' :: (linesWithEnds rest).headD []))) ::
        (linesWithEnds rest).tail := by
    simpa using linesWithEnds_append (by simp) oneLine rest
  rw [lines, keySpanFrom?, if_pos (assigns_of_startsLine plain isGap isGap' _),
    List.takeWhile_append_of_pos isGap.isBlank]
  obtain ⟨c, cs, rfl, notBlank, -⟩ := plain.head
  rw [List.cons_append, List.takeWhile_cons_of_neg (by simp [notBlank]), List.append_nil]

theorem keySpan?_eq_or {text : String} {above below : List Char} (key : String)
    (e : text.toList = above ++ '\n' :: below) :
    keySpan? text key = (keySpanFrom? key.toList 0 (linesWithEnds (above ++ ['\n']))).or
      (keySpanFrom? key.toList (byteLength (above ++ ['\n'])) (linesWithEnds below)) := by
  rw [keySpan?, e, linesWithEnds_append_newline, keySpanFrom?_append, linesWithEnds_flatten,
    Nat.zero_add]

/-- No line assigns to a key that is found further down. -/
theorem not_assigns_of_keySpan? {text key : String} {above below : List Char} {span : Span}
    (plain : IsPlain key.toList) (e : text.toList = above ++ '\n' :: below)
    (found : keySpan? text key = some span) (further : byteLength above < span.offset) :
    ∀ line ∈ linesWithEnds (above ++ ['\n']), assigns key.toList line = false := by
  have nowhere : keySpanFrom? key.toList 0 (linesWithEnds (above ++ ['\n'])) = none := by
    rw [Option.eq_none_iff_forall_ne_some]
    intro s hs
    rw [keySpan?_eq_or _ e, hs, Option.some_or, Option.some.injEq] at found
    obtain ⟨before, after, split, place⟩ := exists_append_of_keySpanFrom? hs
    rw [linesWithEnds_flatten] at split
    have bytes := congrArg byteLength split
    have newline : byteLength ['\n'] = 1 := rfl
    have offset : span.offset = byteLength before := by rw [← found, place, Nat.zero_add]
    have positive := plain.byteLength_pos
    simp only [byteLength_append, newline] at bytes
    omega
  exact keySpanFrom?_eq_none_iff.1 nowhere

/-- What is not written between quotation marks is written as it is. -/
theorem IsPlain.eq_of_append_eq {key chars after rest : List Char} (plain : IsPlain key)
    (written : chars = key ∨ ∃ mark inside, (mark = '"' ∨ mark = '\'') ∧ chars = mark :: inside)
    (e : key ++ after = chars ++ rest) : chars = key := by
  rcases written with same | ⟨mark, inside, hm, rfl⟩
  · exact same
  · obtain ⟨c, cs, rfl, -, double, single⟩ := plain.head
    obtain rfl := (List.cons.inj e).1
    exact absurd hm (not_or.2 ⟨double, single⟩)

/-- **When the place of a key is found**, for a key that starts a line: it has to be written without
quotation marks, and no line above may assign to the same word. -/
theorem keySpan?_eq_some_iff_of_startsLine {text : String} {key : Key}
    (plain : IsPlain key.name.toList) (starts : key.StartsLine text.toList) :
    keySpan? text key.name = some key.span ↔
      ∃ before after, text.toList = before ++ key.name.toList ++ after ∧
        byteLength before = key.span.offset ∧
        ∀ line ∈ linesWithEnds before, assigns key.name.toList line = false := by
  obtain ⟨above, gap, chars, gap', rest, e, isGap, isGap', span, written⟩ := starts
  have lines : linesWithEnds (above ++ '\n' :: gap) =
      linesWithEnds (above ++ ['\n']) ++ linesWithEnds gap := linesWithEnds_append_newline above gap
  have whole {before after : List Char} (split : text.toList = before ++ key.name.toList ++ after) :
      before ++ (key.name.toList ++ after) =
        above ++ '\n' :: gap ++ (chars ++ (gap' ++ '=' :: rest)) := by
    rw [← List.append_assoc, ← split, e]
    simp
  constructor
  · intro found
    obtain ⟨before, after, split, place⟩ := exists_append_of_keySpan? found
    have offset : byteLength before = key.span.offset := by rw [place]
    have further : byteLength above < key.span.offset := by
      rw [span, byteLength_append, byteLength_cons]
      exact Nat.lt_add_of_pos_right (Nat.add_pos_left ('\n').utf8Size_pos _)
    refine ⟨before, after, split, offset, ?_⟩
    rw [eq_of_byteLength_eq (whole split) (by rw [offset, span]), lines, List.forall_mem_append]
    refine ⟨not_assigns_of_keySpan? plain e found further, fun line hl => ?_⟩
    exact not_assigns_of_blank plain.ne_nil fun c hc =>
      isGap.isBlank c (mem_of_mem_linesWithEnds hl hc)
  · rintro ⟨before, after, split, offset, none⟩
    obtain rfl : before = above ++ '\n' :: gap :=
      eq_of_byteLength_eq (whole split) (by rw [offset, span])
    obtain rfl : chars = key.name.toList :=
      plain.eq_of_append_eq written (List.append_cancel_left (whole split))
    rw [lines, List.forall_mem_append] at none
    rw [keySpan?_eq_or _ e, keySpanFrom?_eq_none_iff.2 none.1, Option.none_or, span,
      List.append_assoc, List.append_assoc, keySpanFrom?_of_startsLine plain isGap isGap' _ rest]
    simp only [byteLength_append, byteLength_cons, byteLength_nil, Nat.add_zero, Nat.add_assoc]

/-! ## The key that an error is about -/

/-- The table and the key that a broken rule is about. -/
def Violation.place? : Violation → Option (String × String)
  | .blankPackage => some ("module", "package")
  | .minAboveTarget .. => some ("sdk", "min")
  | .custom _ => none

namespace Toml

/-- The key of this name. -/
def Entries.key? (name : String) (entries : Entries) : Option Key :=
  (entries.find? fun e => e.1.name == name).map (·.1)

/-- The key of this name in a table of the document, if the table has a header of its own. -/
def Value.headedKey? (table name : String) : Value → Option Key
  | .table _ _ entries =>
    match Entries.get? table entries with
    | some (.table _ .header inner) => Entries.key? name inner
    | _ => none
  | _ => none

theorem Entries.mem_of_key? {name : String} {entries : Entries} {key : Key} {value : Value}
    (hk : entries.key? name = some key) (hv : entries.get? name = some value) :
    (key, value) ∈ entries ∧ key.name = name := by
  obtain ⟨e, he, rfl⟩ := Option.map_eq_some_iff.1 hk
  rw [Entries.get?, he] at hv
  obtain rfl := Option.some.inj hv
  exact ⟨List.mem_of_find?_eq_some he, by simpa using List.find?_some he⟩

end Toml

namespace Blueprint

variable {source : Source} {document : Value} {violation : Violation} {span : Option Span}
  {table name : String} {key : Key}

/-- The key that a violation is about has a scalar in the document. -/
theorem exists_scalar_of_violation? {b : Blueprint} {word : String} (distinct : document.Distinct)
    (decoded : decode document = .ok b) (broken : b.violation? = some (violation, word))
    (place : violation.place? = some (table, name)) :
    word = name ∧ IsPlain name.toList ∧ ∃ i j s v,
      (document.field? table i).bind (Value.field? name j) = some (.scalar s v) := by
  obtain ⟨⟨s, package⟩, ⟨s', min⟩, -⟩ := hasFields_of_decode distinct decoded
  unfold violation? at broken
  split at broken
  · cases broken
    cases place
    exact ⟨rfl, ⟨⟨'p', _, rfl, by decide⟩, by decide⟩, 3, 0, s, _, package⟩
  split at broken
  · cases broken
    cases place
    exact ⟨rfl, ⟨⟨'m', _, rfl, by decide⟩, by decide⟩, 4, 1, s', _, min⟩
  · cases broken

/-- **When an error points at the key that it is about**, if the table of the key has a header of
its own: exactly if the key is written without quotation marks, and no line above it assigns to the
same word. -/
theorem span_eq_iff (failed : load source = .error (.invalid source violation span))
    (parsed : Document.parse source.text = .ok document)
    (place : violation.place? = some (table, name))
    (headed : document.headedKey? table name = some key) :
    span = some key.span ↔
      ∃ before after, source.text.toList = before ++ name.toList ++ after ∧
        byteLength before = key.span.offset ∧
        ∀ line ∈ linesWithEnds before, assigns name.toList line = false := by
  obtain ⟨document', b, word, hp, decoded, broken, rfl⟩ := load_eq_invalid_iff.1 failed
  cases parsed.symm.trans hp
  obtain ⟨entries, rfl, keys⟩ := Document.headed_of_parse parsed
  obtain ⟨entries', e, distinct⟩ := Document.distinct_of_parse parsed
  cases e
  obtain ⟨rfl, plain, i, j, s, v, scalar⟩ :=
    exists_scalar_of_violation? (distinct.table _ _) decoded broken place
  rw [Value.headedKey?] at headed
  split at headed
  · next tableSpan inner found =>
    rw [Value.field?, found, Option.bind_some, Value.field?] at scalar
    obtain ⟨mem, rfl⟩ := Entries.mem_of_key? headed scalar
    have starts := (keys.of_get? found).entries.keys rfl _ _ _ mem
    exact keySpan?_eq_some_iff_of_startsLine plain starts
  · cases headed

/-- A text in which the package is blank. -/
def blankSource : Source where
  name := "module.toml"
  text := "[sdk]\ncompile = 3\nmin = 1\ntarget = 2\n[module]\npath = \"m\"\n  package = \"\"\n"

theorem span_eq_iff_blankSource : ∃ document, Document.parse blankSource.text = .ok document ∧
    document.headedKey? "module" "package" = some ⟨"package", ⟨59, 7⟩⟩ ∧
      ∃ before after, blankSource.text.toList = before ++ "package".toList ++ after ∧
        byteLength before = 59 ∧
        ∀ line ∈ linesWithEnds before, assigns "package".toList line = false := by
  have failed : load blankSource =
      .error (.invalid blankSource .blankPackage (some ⟨59, 7⟩)) := by
    decide +kernel
  have headed : ((Document.parse blankSource.text).toOption.bind
      (Value.headedKey? "module" "package")) = some ⟨"package", ⟨59, 7⟩⟩ := by
    decide +kernel
  obtain ⟨document, -, -, parsed, -⟩ := load_eq_invalid_iff.1 failed
  rw [parsed] at headed
  exact ⟨document, parsed, headed, (span_eq_iff failed parsed rfl headed).1 rfl⟩

/-- A text with a blank package, and with an extra line that reads as if it assigned to it. -/
def misleadingSource : Source where
  name := "module.toml"
  text := "extra-lines = [\"\"\"\npackage = 1\n\"\"\"]\n[module]\npackage = \"\"\npath = \"m\"\n" ++
    "[sdk]\ncompile = 3\nmin = 1\ntarget = 2\n"

/-- The error points into the extra line, and not at the key of the package. -/
theorem span_ne_misleadingSource :
    load misleadingSource = .error (.invalid misleadingSource .blankPackage (some ⟨19, 7⟩)) ∧
      (Document.parse misleadingSource.text).toOption.bind (Value.headedKey? "module" "package") =
        some ⟨"package", ⟨45, 7⟩⟩ := by
  decide +kernel

end Blueprint

end GradleScript
