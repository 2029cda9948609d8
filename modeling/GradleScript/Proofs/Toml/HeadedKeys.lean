import GradleScript.Proofs.Toml.DistinctKeys
import GradleScript.Proofs.Toml.LineKeys
import GradleScript.Proofs.Toml.Placement

/-!
# Keys below headers

The scalars of a table that has a header stand below it, each on a line that starts with its key. A
table with a header gets other values in other ways, by the headers of tables inside it and by
dotted keys; but those are tables and arrays. So the place of a key with a scalar leads to the start
of a line of the text.

## Main definitions

* `Key.StartsLine`: the keys that lines of a text start with
* `Value.Headed`, `Entries.Headed`: keys with scalars in tables with headers have a property
* `headedKeys`: this as a property that building a table keeps

## Main results

* `Document.headed_of_parse`: keys with scalars below the headers of a document start lines
-/

namespace GradleScript.Toml

/-- In the value, the keys of scalars in tables with headers have a property. -/
inductive Value.Headed (P : Key → Prop) : Value → Prop where
  | scalar (span : Span) (value : Scalar) : Headed P (.scalar span value)
  | array (span : Span) (ofTables : Bool) {items : List Value} (each : ∀ v ∈ items, Headed P v) :
    Headed P (.array span ofTables items)
  | table (span : Span) {origin : Origin} {entries : List (Key × Value)}
    (keys : origin.isHeaded = true → ∀ key s value, (key, .scalar s value) ∈ entries → P key)
    (each : ∀ e ∈ entries, Headed P e.2) : Headed P (.table span origin entries)

/-- The same for the entries of a table that came to be in this way. -/
structure Entries.Headed (P : Key → Prop) (origin : Origin) (entries : Entries) : Prop where
  keys : origin.isHeaded = true → ∀ key s value, (key, .scalar s value) ∈ entries → P key
  each : ∀ e ∈ entries, e.2.Headed P

variable {P : Key → Prop}

theorem Value.Headed.entries {span : Span} {origin : Origin} {entries : Entries}
    (h : (Value.table span origin entries).Headed P) : entries.Headed P origin := by
  cases h with
  | table _ keys each => exact ⟨keys, each⟩

theorem Value.Headed.items {span : Span} {ofTables : Bool} {items : List Value}
    (h : (Value.array span ofTables items).Headed P) : ∀ v ∈ items, v.Headed P := by
  cases h with
  | array _ _ each => exact each

namespace Entries.Headed

variable {origin : Origin} {entries entries' : Entries}

theorem nil (origin : Origin) : Headed P origin [] := ⟨by simp, by simp⟩

theorem table (h : entries.Headed P origin) (span : Span) :
    (Value.table span origin entries).Headed P :=
  .table span h.keys h.each

theorem of_get? (h : entries.Headed P origin) {name : String} {value : Value}
    (e : entries.get? name = some value) : value.Headed P := by
  obtain ⟨key, he, -⟩ := mem_of_get?_eq_some e
  exact h.each _ he

theorem add (h : entries.Headed P origin) {key : Key} {value : Value} (hv : value.Headed P)
    (hk : origin.isHeaded = true → value.isScalar = true → P key) :
    (entries.add key value).Headed P origin := by
  refine ⟨fun headed k s v he => ?_, fun e he => ?_⟩
  · rcases List.mem_append.1 he with he | he
    · exact h.keys headed k s v he
    · obtain ⟨rfl, rfl⟩ := Prod.mk.inj (List.mem_singleton.1 he)
      exact hk headed rfl
  · rcases List.mem_append.1 he with he | he
    · exact h.each e he
    · rw [List.mem_singleton.1 he]
      exact hv

/-- A new value that is no scalar is no matter of its key. -/
theorem set (h : entries.Headed P origin) {name : String} {value : Value} (hv : value.Headed P)
    (noScalar : value.isScalar = false) : (entries.set name value).Headed P origin := by
  refine ⟨fun headed k s v he => ?_, fun e' he' => ?_⟩
  · obtain ⟨e, he, same⟩ := List.mem_map.1 he
    split at same
    · rw [(Prod.mk.inj same).2] at noScalar
      cases noScalar
    · exact h.keys headed k s v (same ▸ he)
  · obtain ⟨e, he, rfl⟩ := List.mem_map.1 he'
    split
    · exact hv
    · exact h.each e he

theorem erase (h : entries.Headed P origin) (name : String) :
    (entries.erase name).Headed P origin :=
  ⟨fun headed k s v he => h.keys headed k s v (List.mem_filter.1 he).1,
    fun e he => h.each e (List.mem_filter.1 he).1⟩

end Entries.Headed

/-- Tables and arrays may be added under any key. -/
def headedKeys (P : Key → Prop) : TableProperty where
  OfValue := Value.Headed P
  OfEntries origin entries := entries.Headed P origin
  scalar := .scalar
  array := ⟨Value.Headed.items, .array _ _⟩
  table := ⟨Value.Headed.entries, fun h => h.table _⟩
  nil := .nil
  get? h e := h.of_get? e
  add h _ hv noScalar := h.add hv fun headed scalar => by simp [noScalar headed] at scalar
  set h hv noScalar := h.set hv noScalar
  erase name h := h.erase name
  -- an implied table has kept to this before it is opened
  reopen h := ⟨fun _ => h.keys rfl, h.each⟩

theorem headedKeys_admits {key : WrittenKey} {value : Written}
    (h : ∀ k, KeyPath.ofWritten key = .ok ⟨[], k⟩ → P k) :
    (headedKeys P).Admits (.field key value) :=
  fun k hk _ _ entries _ hv => Entries.Headed.add entries hv fun _ _ => h k hk

/-! ## Documents -/

/-- The key stands at the start of a line of the text, as it is or between quotation marks, and
what follows it on the line is an equals sign. -/
def Key.StartsLine (text : List Char) (k : Key) : Prop :=
  ∃ above gap chars gap' rest, text = above ++ '\n' :: (gap ++ chars ++ gap' ++ '=' :: rest) ∧
    IsGap gap ∧ IsGap gap' ∧ k.span = ⟨byteLength (above ++ '\n' :: gap), byteLength chars⟩ ∧
    (chars = k.name.toList ∨
      ∃ mark inside, (mark = '"' ∨ mark = '\'') ∧ chars = mark :: inside)

theorem PlacedWord.span_eq_of_key? {w : PlacedWord} {k : Key} (h : w.key? = some k) :
    k.span = w.span := by
  unfold PlacedWord.key? at h
  split at h
  · split at h <;> cases h
    rfl
  · split at h
    · cases h
    · obtain ⟨name, -, rfl⟩ := Option.map_eq_some_iff.1 h
      rfl

/-- The characters of a key are its name, or there is a quotation mark in front. -/
theorem PlacedWord.eq_name_or_quoted {w : PlacedWord} {k : Key} (h : w.key? = some k)
    {lexeme : Lexeme} (ht : lexeme.word? = some w.word) {chars : List Char}
    (spells : lexeme.Spells chars) :
    chars = k.name.toList ∨ ∃ mark inside, (mark = '"' ∨ mark = '\'') ∧ chars = mark :: inside := by
  cases lexeme with
  | bare text =>
    rw [PlacedWord.key?, ← Option.some.inj ht] at h
    dsimp only at h
    split at h <;> cases h
    exact .inl (spells.trans String.toList_ofList.symm)
  | quoted q =>
    obtain ⟨mark, inside, e⟩ := spells
    exact .inr ⟨q.mark, inside, mark, e⟩
  | _ => cases ht

/-- A word that starts a line among the tokens of a text makes a key that does in the text. -/
theorem PlacedWord.StartsLine.key {text : List Char} {tokens : List Token}
    (h : Token.scan? text = some tokens) {w : PlacedWord} (hw : w.StartsLine tokens) {k : Key}
    (hk : w.key? = some k) : k.StartsLine text := by
  obtain ⟨front, newline, t, equals, back, e, hn, ht, hs, he⟩ := hw
  have word : t.lexeme ≠ .newline := by
    intro e
    rw [e] at ht
    cases ht
  obtain ⟨above, chars, rest, rfl, isGap, isGap', spells, place⟩ :=
    Token.exists_line_of_scan? h e hn word he
  refine ⟨above, t.gap, chars, equals.gap, rest, rfl, isGap, isGap', ?_, ?_⟩
  · rw [PlacedWord.span_eq_of_key? hk, ← hs, place]
  · exact PlacedWord.eq_name_or_quoted hk ht spells

/-- A key without dots is one word. -/
theorem KeyPath.eq_singleton_of_ofWritten {key : WrittenKey} {k : Key}
    (h : KeyPath.ofWritten key = .ok ⟨[], k⟩) : ∃ w, key = [w] ∧ w.key? = some k := by
  obtain ⟨keys, hk, h⟩ := Except.bind_eq_ok_iff.1 h
  have read := eq_of_expect_eq_ok hk
  have single : keys = [k] := by
    split at h
    · next last front e =>
      split at h
      · simp only [Except.ok.injEq, KeyPath.mk.injEq, List.reverse_eq_nil_iff] at h
        obtain ⟨rfl, rfl⟩ := h
        rw [← List.reverse_reverse keys, e]
        rfl
      · cases h
    · cases h
  subst single
  cases key with
  | nil => cases read
  | cons w rest =>
    simp only [List.mapM_cons, Option.bind_eq_bind, Option.bind_eq_some_iff, Option.pure_def,
      Option.some.injEq, List.cons.injEq] at read
    obtain ⟨k', hw, others, ho, rfl, rfl⟩ := read
    cases rest with
    | nil => exact ⟨w, rfl, hw⟩
    | cons w' rest => simp [List.mapM_cons, Option.bind_eq_some_iff] at ho

/-- **Keys with scalars below the headers of a document start lines of its text.** -/
theorem Document.headed_of_parse {text : String} {document : Value}
    (h : Document.parse text = .ok document) :
    ∃ entries : Entries, document = .table ⟨0, 0⟩ .header entries ∧
      entries.Headed (Key.StartsLine text.toList) .inline := by
  refine (headedKeys (Key.StartsLine text.toList)).ofEntries_of_parse h ?_
  intro tokens lines scanned laidOut line mem
  cases line with
  | header => trivial
  | field key value =>
    refine headedKeys_admits fun k hk => ?_
    obtain ⟨w, rfl, hw⟩ := KeyPath.eq_singleton_of_ofWritten hk
    have present : w.word ≠ .bare [] := by
      intro e
      rw [PlacedWord.key?, e] at hw
      cases hw
    exact (Line.startsLine_of_ofTokens? laidOut mem w rfl present).key scanned hw

end GradleScript.Toml
