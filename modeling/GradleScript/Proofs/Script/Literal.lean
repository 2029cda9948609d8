import GradleScript.Statement

/-!
# Literals

A literal is read from its opening quotation mark up to the next mark of the same kind that is not
escaped. A backslash escapes the character behind it, and a line break may not come before the
closing mark. Nothing in a text is escaped when it is put between quotation marks, so that the
literal that is read is this text only if the text itself can stand between the marks.

## Main definitions

* `readLiteral`: reads a literal behind its opening mark
* `Enclosable`: the texts that can stand between two marks

## Main results

* `readLiteral_append_iff`: a text is read back from between two marks if it can stand there
-/

namespace GradleScript

/-- Whether a character breaks a line. -/
def isLineBreak (c : Char) : Bool := c == '\n' || c == '\r'

/-- Reads a literal behind its opening mark: what stands in front of the closing mark, and what
follows it. -/
def readLiteral (mark : Char) : List Char → Option (List Char × List Char)
  | [] => none
  | '\\' :: c :: rest =>
    if isLineBreak c then none
    else (readLiteral mark rest).map fun p => ('\\' :: c :: p.1, p.2)
  | c :: rest =>
    if c = mark then some ([], rest)
    else if isLineBreak c then none
    else (readLiteral mark rest).map fun p => (c :: p.1, p.2)

/-- Whether a text escapes the character behind it: it ends with an odd number of backslashes. -/
def escapesNext (cs : List Char) : Bool :=
  (cs.reverse.takeWhile (· == '\\')).length % 2 == 1

/-- A text that can stand between two marks. -/
structure Enclosable (mark : Char) (cs : List Char) : Prop where
  /-- It has no line break. -/
  oneLine : ∀ c ∈ cs, isLineBreak c = false
  /-- Each mark in it is escaped. -/
  marks : ∀ front back, cs = front ++ mark :: back → escapesNext front = true
  /-- It does not escape the closing mark. -/
  ending : escapesNext cs = false

/-! ## Escapes -/

theorem escapesNext_cons_of_ne {c : Char} (h : c ≠ '\\') (cs : List Char) :
    escapesNext (c :: cs) = escapesNext cs := by
  rw [escapesNext, escapesNext, List.reverse_cons, List.takeWhile_append]
  -- backslashes at the end are counted up to a character that is none
  split
  · next all =>
    rw [List.takeWhile_cons_of_neg (by simpa using h), List.append_nil, all]
  · rfl

/-- A backslash escapes one character, and no more than that. -/
theorem escapesNext_backslash_cons (c : Char) (cs : List Char) :
    escapesNext ('\\' :: c :: cs) = escapesNext cs := by
  rw [escapesNext, escapesNext, List.reverse_cons, List.reverse_cons, List.append_assoc,
    List.takeWhile_append]
  split
  · next all =>
    by_cases h : c = '\\' <;> simp [h, all]
  · rfl

namespace Enclosable

variable {mark : Char}

theorem nil (mark : Char) : Enclosable mark [] := ⟨by simp, by simp, rfl⟩

/-- A single backslash would escape the closing mark. -/
theorem not_backslash (mark : Char) : ¬ Enclosable mark ['\\'] :=
  fun h => absurd h.ending (by decide)

theorem backslash_cons_iff (hm : mark ≠ '\\') {c : Char} {cs : List Char} :
    Enclosable mark ('\\' :: c :: cs) ↔ isLineBreak c = false ∧ Enclosable mark cs := by
  constructor
  · intro h
    refine ⟨h.oneLine c (by simp), fun d hd => h.oneLine d (by simp [hd]), ?_, ?_⟩
    · rintro front back rfl
      rw [← escapesNext_backslash_cons c front]
      exact h.marks ('\\' :: c :: front) back rfl
    · rw [← escapesNext_backslash_cons c cs]
      exact h.ending
  · rintro ⟨hc, h⟩
    refine ⟨?_, ?_, ?_⟩
    · simp only [List.forall_mem_cons]
      exact ⟨by decide, hc, h.oneLine⟩
    · intro front back e
      match front, e with
      | [], e => exact absurd (List.cons.inj e).1.symm hm
      | [_], e =>
        obtain ⟨rfl, -⟩ := List.cons.inj e
        rfl
      | _ :: d :: front, e =>
        obtain ⟨backslash, e⟩ := List.cons.inj e
        rw [← backslash, escapesNext_backslash_cons]
        exact h.marks front back (List.cons.inj e).2
    · rw [escapesNext_backslash_cons]
      exact h.ending

theorem cons_iff {c : Char} (hc : c ≠ '\\') {cs : List Char} :
    Enclosable mark (c :: cs) ↔ c ≠ mark ∧ isLineBreak c = false ∧ Enclosable mark cs := by
  constructor
  · intro h
    refine ⟨?_, h.oneLine c (by simp), fun d hd => h.oneLine d (by simp [hd]), ?_, ?_⟩
    · rintro rfl
      exact absurd (h.marks [] cs rfl) (by decide)
    · rintro front back rfl
      rw [← escapesNext_cons_of_ne hc]
      exact h.marks (c :: front) back rfl
    · rw [← escapesNext_cons_of_ne hc]
      exact h.ending
  · rintro ⟨ne, hb, h⟩
    refine ⟨?_, ?_, ?_⟩
    · rw [List.forall_mem_cons]
      exact ⟨hb, h.oneLine⟩
    · intro front back e
      cases front with
      | nil => exact absurd (List.cons.inj e).1 ne
      | cons d front =>
        obtain ⟨rfl, tail⟩ := List.cons.inj e
        rw [escapesNext_cons_of_ne hc]
        exact h.marks front back tail
    · rw [escapesNext_cons_of_ne hc]
      exact h.ending

end Enclosable

/-! ## Reading -/

theorem readLiteral_cons {mark c : Char} (hc : c ≠ '\\') (rest : List Char) :
    readLiteral mark (c :: rest) =
      if c = mark then some ([], rest)
      else if isLineBreak c then none
      else (readLiteral mark rest).map fun p => (c :: p.1, p.2) := by
  rw [readLiteral]
  exact fun _ _ e => absurd e hc

variable {mark : Char} {c : Char} {text rest : List Char}

theorem readLiteral_backslash_cons_iff : readLiteral mark ('\\' :: c :: text ++ mark :: rest) =
      some ('\\' :: c :: text, rest) ↔
    isLineBreak c = false ∧ readLiteral mark (text ++ mark :: rest) = some (text, rest) := by
  rw [List.cons_append, List.cons_append, readLiteral]
  cases isLineBreak c <;> simp

theorem readLiteral_cons_iff (hc : c ≠ '\\') :
    readLiteral mark (c :: text ++ mark :: rest) = some (c :: text, rest) ↔
      c ≠ mark ∧ isLineBreak c = false ∧
        readLiteral mark (text ++ mark :: rest) = some (text, rest) := by
  rw [List.cons_append, readLiteral_cons hc]
  split
  · next h => simp [h]
  · next h => cases isLineBreak c <;> simp [h]

/-- **A text is read back from between two marks** if and only if it can stand there. -/
theorem readLiteral_append_iff (hm : mark ≠ '\\') (rest : List Char) : (text : List Char) →
    (readLiteral mark (text ++ mark :: rest) = some (text, rest) ↔ Enclosable mark text)
  | [] => by
    rw [List.nil_append, readLiteral_cons hm, if_pos rfl]
    exact iff_of_true rfl (.nil mark)
  | [c] => by
    by_cases hc : c = '\\'
    · subst hc
      refine iff_of_false ?_ (Enclosable.not_backslash mark)
      rw [List.singleton_append, readLiteral]
      cases isLineBreak mark <;> simp
    · rw [readLiteral_cons_iff hc, Enclosable.cons_iff hc, readLiteral_append_iff hm rest []]
  | c :: d :: text => by
    by_cases hc : c = '\\'
    · subst hc
      rw [readLiteral_backslash_cons_iff, Enclosable.backslash_cons_iff hm,
        readLiteral_append_iff hm rest text]
    · rw [readLiteral_cons_iff hc, Enclosable.cons_iff hc,
        readLiteral_append_iff hm rest (d :: text)]

end GradleScript
