import GradleScript.Blueprint
import GradleScript.Proofs.Script.Reading
import GradleScript.Text.Lines

/-!
# The texts of a script

The texts that a script is made of are numbers, quoted names, lists of quoted names, and lines of a
longer text. None of them has a newline unless a name has one, none reads like the start of a
block, and each says what it was made from.

## Main results

* `not_isOpening_toString`, `not_isOpening_doubleQuoted`, `not_isOpening_join_doubleQuoted`: such
  texts do not read like the start of a block
* `eq_of_join_doubleQuoted_eq`: a list of quoted names says which names they are
* `onOneLine_of_mem_lines`: the lines of a text have no newline
-/

namespace GradleScript

/-- A text that ends with another character than a brace does not read like the start of a
block. -/
theorem not_isOpening_of_concat {text : String} {cs : List Char} {c : Char}
    (h : text.toList = cs ++ [c]) (hc : c ≠ '{') : ¬ IsOpening text := by
  rintro ⟨front, e⟩
  rw [h, show [' ', '{'] = [' '] ++ ['{'] from rfl, ← List.append_assoc] at e
  exact hc (List.singleton_inj.1 (List.append_inj' e rfl).2).symm

/-! ## Numbers -/

theorem onOneLine_toString (n : Nat) : OnOneLine (toString n) := by
  rw [OnOneLine, Nat.toString_eq_ofList_toDigits, String.toList_ofList]
  exact fun h => absurd (Nat.isDigit_of_mem_toDigits (by decide) (by decide) h) (by decide)

theorem not_isOpening_toString (front : String) (n : Nat) : ¬ IsOpening (front ++ toString n) := by
  have ne : Nat.toDigits 10 n ≠ [] := Nat.toDigits_ne_nil
  have digit : ((Nat.toDigits 10 n).getLast ne).isDigit :=
    Nat.isDigit_of_mem_toDigits (by decide) (by decide) (List.getLast_mem ne)
  have last : (front ++ toString n).toList =
      front.toList ++ (Nat.toDigits 10 n).dropLast ++ [(Nat.toDigits 10 n).getLast ne] := by
    rw [String.toList_append, Nat.toString_eq_ofList_toDigits, String.toList_ofList,
      List.append_assoc, List.dropLast_concat_getLast]
  exact not_isOpening_of_concat last fun e => absurd (e ▸ digit) (by decide)

theorem toString_nat_inj {m n : Nat} (h : toString m = toString n) : m = n := by
  have h' := congrArg (fun s : String => Nat.ofDigitChars 10 s.toList 0) h
  simpa only [Nat.toString_eq_ofList_toDigits, String.toList_ofList,
    Nat.ofDigitChars_ten_toDigits] using h'

theorem eq_of_toString_eq {m n : ApiLevel} (h : toString m.toNat = toString n.toNat) : m = n :=
  UInt32.toNat_inj.1 (toString_nat_inj h)

/-! ## Quoted names -/

theorem onOneLine_doubleQuoted {text : String} (h : OnOneLine text) :
    OnOneLine (doubleQuoted text) :=
  ((by decide : OnOneLine "\"").append h).append (by decide)

theorem not_isOpening_doubleQuoted (front text : String) :
    ¬ IsOpening (front ++ doubleQuoted text) := by
  have last : (front ++ doubleQuoted text).toList = (front ++ "\"" ++ text).toList ++ ['"'] := by
    simp [doubleQuoted]
  exact not_isOpening_of_concat last (by decide)

theorem singleQuoted_inj {s t : String} (h : singleQuoted s = singleQuoted t) : s = t := by
  simpa [singleQuoted] using h

theorem doubleQuoted_inj {s t : String} (h : doubleQuoted s = doubleQuoted t) : s = t := by
  simpa [doubleQuoted] using h

theorem onOneLine_join {ls : List String} (h : ∀ l ∈ ls, OnOneLine l) :
    OnOneLine (", ".intercalate ls) := by
  induction ls with
  | nil => decide
  | cons l ls ih =>
    have rest := ih fun x hx => h x (by simp [hx])
    cases ls with
    | nil => simpa using h
    | cons m ms =>
      rw [String.intercalate_cons_of_ne_nil (by simp)]
      exact ((h l (by simp)).append (by decide)).append rest

theorem not_isOpening_join_doubleQuoted (front : String) {names : List String} (h : names ≠ []) :
    ¬ IsOpening (front ++ ", ".intercalate (names.map doubleQuoted)) := by
  obtain ⟨others, name, rfl⟩ := (List.eq_nil_or_concat names).resolve_left h
  rw [List.concat_eq_append, List.map_append, List.map_singleton]
  cases others with
  | nil =>
    rw [List.map_nil, List.nil_append, String.intercalate_singleton]
    exact not_isOpening_doubleQuoted front name
  | cons n ns =>
    rw [String.intercalate_append_of_ne_nil (by simp) (by simp), String.intercalate_singleton,
      ← String.append_assoc]
    exact not_isOpening_doubleQuoted _ name

/-- What follows the first name in a list of quoted names. -/
theorem toList_join_doubleQuoted (name : String) (names : List String) :
    (", ".intercalate ((name :: names).map doubleQuoted)).toList =
      '"' :: (name.toList ++ '"' :: if names = [] then [] else
        ", ".toList ++ (", ".intercalate (names.map doubleQuoted)).toList) := by
  cases names with
  | nil => simp [doubleQuoted]
  | cons n ns =>
    rw [List.map_cons, String.intercalate_cons_of_ne_nil (by simp)]
    simp [doubleQuoted, -String.toList_intercalate]

/-- A list of quoted names says which names they are, unless a name has a quotation mark in it. -/
theorem eq_of_join_doubleQuoted_eq {as bs : List String} (ha : ∀ a ∈ as, '"' ∉ a.toList)
    (hb : ∀ b ∈ bs, '"' ∉ b.toList)
    (h : ", ".intercalate (as.map doubleQuoted) = ", ".intercalate (bs.map doubleQuoted)) :
    as = bs := by
  have unquoted {s : String} (hs : '"' ∉ s.toList) : ∀ c ∈ s.toList, c ≠ '"' :=
    fun c hc e => hs (e ▸ hc)
  induction as generalizing bs with
  | nil =>
    cases bs with
    | nil => rfl
    | cons b bs =>
      have h' := congrArg String.toList h
      rw [toList_join_doubleQuoted] at h'
      simp at h'
  | cons a as ih =>
    cases bs with
    | nil =>
      have h' := congrArg String.toList h
      rw [toList_join_doubleQuoted] at h'
      simp at h'
    | cons b bs =>
      -- the first name goes up to the next quotation mark on both sides
      have h' := congrArg String.toList h
      rw [toList_join_doubleQuoted, toList_join_doubleQuoted, List.cons.injEq] at h'
      obtain ⟨e, -, e'⟩ := append_cons_inj_of_run (unquoted (ha a (by simp)))
        (unquoted (hb b (by simp))) (by simp) (by simp) h'.2
      have rest :
          ", ".intercalate (as.map doubleQuoted) = ", ".intercalate (bs.map doubleQuoted) := by
        by_cases ea : as = [] <;> by_cases eb : bs = []
        · rw [ea, eb]
        · rw [if_pos ea, if_neg eb] at e'
          exact absurd e' (by simp)
        · rw [if_neg ea, if_pos eb] at e'
          exact absurd e' (by simp)
        · rw [if_neg ea, if_neg eb] at e'
          exact String.toList_injective (List.append_cancel_left e')
      rw [String.toList_injective e, ih (fun x hx => ha x (by simp [hx]))
        (fun x hx => hb x (by simp [hx])) rest]

/-! ## Words and lines -/

/-- A line that starts with a word says where the word ends. -/
theorem eq_of_word_append_eq {m n v w : String} (hm : ' ' ∉ m.toList) (hn : ' ' ∉ n.toList)
    (h : m ++ " " ++ v = n ++ " " ++ w) : m = n ∧ v = w := by
  have word {s : String} (hs : ' ' ∉ s.toList) : ∀ c ∈ s.toList, c ≠ ' ' :=
    fun c hc e => hs (e ▸ hc)
  have h' := congrArg String.toList h
  simp only [String.toList_append, List.append_assoc, show " ".toList = [' '] from rfl,
    List.singleton_append] at h'
  obtain ⟨e, -, e'⟩ := append_cons_inj_of_run (word hm) (word hn) (by simp) (by simp) h'
  exact ⟨String.toList_injective e, String.toList_injective e'⟩

/-- A line of a text has no newline. -/
theorem not_mem_of_mem_lineChars (cs : List Char) : ∀ l ∈ Text.lineChars cs, '\n' ∉ l := by
  fun_induction Text.lineChars cs with
  | case1 => simp
  | case2 rest ih => simpa using ih
  | case3 rest ih => simpa using ih
  | case4 c rest hc _ h ih => simpa using Ne.symm (by simpa using hc)
  | case5 c rest hc _ line others h ih =>
    simp only [h, List.mem_cons, forall_eq_or_imp] at ih ⊢
    exact ⟨by simpa [ih.1] using Ne.symm (by simpa using hc), ih.2⟩

theorem onOneLine_of_mem_lines {text line : String} (h : line ∈ Text.lines text) :
    OnOneLine line := by
  obtain ⟨l, hl, rfl⟩ := List.mem_map.1 h
  rw [OnOneLine, String.toList_ofList]
  exact not_mem_of_mem_lineChars _ l hl

end GradleScript
