import GradleScript.Proofs.Except
import GradleScript.Toml.Document

/-!
# Keys that lines start with

A line of a layout may go on over several lines of the text, and a table in braces has keys that
stand anywhere. But the key that a line of the layout starts with is at the start of a line of the
text: unless it is the first line, a newline stands in front of it, and if the key has no dots, an
equals sign right behind it.

## Main definitions

* `StartsLine`: the keys between a newline and an equals sign
* `Layout.KeysStart`: the lines that are laid out so far start with such keys

## Main results

* `Layout.KeysStart.step`: reading a token keeps this
* `Line.startsLine_of_ofTokens?`: the lines of a text start with such keys
-/

namespace GradleScript.Toml

/-- The word that a token writes. -/
def Lexeme.word? : Lexeme → Option Word
  | .bare text => some (.bare text)
  | .quoted quotation => some (.quoted quotation)
  | _ => none

/-- Among some tokens, the word has a newline in front of it and an equals sign behind it. -/
def PlacedWord.StartsLine (tokens : List Token) (w : PlacedWord) : Prop :=
  ∃ front newline t equals back, tokens = front ++ newline :: t :: equals :: back ∧
    newline.lexeme = .newline ∧ t.lexeme.word? = some w.word ∧ t.span = w.span ∧
    equals.lexeme = .equals

/-- The key starts a line, if it has one part and that is not missing. -/
def WrittenKey.StartsLine (tokens : List Token) (key : WrittenKey) : Prop :=
  ∀ w, key = [w] → w.word ≠ .bare [] → w.StartsLine tokens

/-- The last of some tokens is a newline. -/
def EndsLine (tokens : List Token) : Prop :=
  ∃ front newline, tokens = front ++ [newline] ∧ newline.lexeme = .newline

/-- The last of some tokens is this word, with a newline in front of it. -/
def PlacedWord.Opens (tokens : List Token) (w : PlacedWord) : Prop :=
  ∃ front t, EndsLine front ∧ tokens = front ++ [t] ∧ t.lexeme.word? = some w.word ∧
    t.span = w.span

/-- If a line is to be completed with what the frame will hold, it starts with its key. -/
def Frame.KeysStart (tokens : List Token) : Frame → Prop
  | .line key => key.StartsLine tokens
  | _ => True

/-- What the reader of a layout is in the middle of starts a line. -/
def LayoutMode.KeysStart (tokens : List Token) : LayoutMode → Prop
  | .lineStart => EndsLine tokens
  | .lineKey key =>
    key.parts ≠ [] ∧ ∀ w, key.parts = [w] → key.wantsPart = false → w.Opens tokens
  | .item frames => ∀ f ∈ frames, f.KeysStart tokens
  | .bare frames .. => ∀ f ∈ frames, f.KeysStart tokens
  | .afterItem _ _ outer => ∀ f ∈ outer, f.KeysStart tokens
  | .fieldKey _ _ outer .. => ∀ f ∈ outer, f.KeysStart tokens
  | .afterField _ _ outer => ∀ f ∈ outer, f.KeysStart tokens
  | _ => True

/-- The line starts with its key, if it has one. -/
def Line.KeysStart (tokens : List Token) : Line → Prop
  | .field key _ => key.StartsLine tokens
  | .header .. => True

/-- All lines but the first one start with their keys, the one that is being read included. The
lines stand in the layout with the last one first. -/
structure Layout.KeysStart (tokens : List Token) (l : Layout) : Prop where
  lines : ∀ line ∈ l.lines.dropLast, line.KeysStart tokens
  mode : l.lines ≠ [] → l.mode.KeysStart tokens

/-! ## More tokens -/

section

variable {tokens : List Token} (more : List Token)

theorem WrittenKey.StartsLine.append {key : WrittenKey} (h : key.StartsLine tokens) :
    key.StartsLine (tokens ++ more) := by
  intro w hk hw
  obtain ⟨front, newline, t, equals, back, rfl, hn, ht, hs, he⟩ := h w hk hw
  exact ⟨front, newline, t, equals, back ++ more, by simp, hn, ht, hs, he⟩

theorem Frame.KeysStart.append {f : Frame} (h : f.KeysStart tokens) :
    f.KeysStart (tokens ++ more) := by
  cases f with
  | line key => exact WrittenKey.StartsLine.append more h
  | array => trivial
  | field => trivial

theorem Line.KeysStart.append {line : Line} (h : line.KeysStart tokens) :
    line.KeysStart (tokens ++ more) := by
  cases line with
  | field key value => exact WrittenKey.StartsLine.append more h
  | header => trivial

end

/-! ## The steps of the reader -/

/-- Reading on in a key adds the part that the token writes, or the dot behind a part. -/
theorem OpenKey.read?_eq_some {key key' : OpenKey} {t : Token} (e : key.read? t = some key') :
    (∃ word, t.lexeme.word? = some word ∧ key.wantsPart = true ∧
        key' = ⟨⟨word, t.span⟩ :: key.parts, false⟩) ∨
      key' = ⟨key.fill t.start, true⟩ := by
  unfold OpenKey.read? at e
  split at e
  · next text ht =>
    unfold OpenKey.push? at e
    split at e <;> cases e
    exact .inl ⟨.bare text, by rw [ht]; rfl, ‹_›, rfl⟩
  · next quotation ht =>
    unfold OpenKey.push? at e
    split at e <;> cases e
    exact .inl ⟨.quoted quotation, by rw [ht]; rfl, ‹_›, rfl⟩
  · cases e
    exact .inr rfl
  · cases e

theorem OpenKey.fill_ne_nil {key : OpenKey} (h : key.parts ≠ []) (offset : Nat) :
    key.fill offset ≠ [] := by
  unfold OpenKey.fill
  split
  · simp
  · exact h

/-- A word that opens a line starts it once it is followed by an equals sign. -/
theorem PlacedWord.Opens.startsLine {tokens : List Token} {w : PlacedWord} (h : w.Opens tokens)
    {equals : Token} (he : equals.lexeme = .equals) : w.StartsLine (tokens ++ [equals]) := by
  obtain ⟨_, t, ⟨front, newline, rfl, hn⟩, rfl, ht, hs⟩ := h
  exact ⟨front, newline, t, equals, [], by simp, hn, ht, hs, he⟩

namespace Layout.KeysStart

variable {tokens : List Token} {l l' : Layout} {t : Token}

/-- Adding a line. What it starts with counts only if it is not the first one. -/
theorem add {line : Line} {mode : LayoutMode} (e : l.add line mode = some l')
    (lines : ∀ line ∈ l.lines.dropLast, line.KeysStart tokens)
    (hl : l.lines ≠ [] → line.KeysStart tokens) (hm : mode.KeysStart tokens) :
    l'.KeysStart tokens := by
  cases e
  refine ⟨?_, fun _ => hm⟩
  by_cases first : l.lines = []
  · simp [first]
  · rw [List.dropLast_cons_of_ne_nil first, List.forall_mem_cons]
    exact ⟨hl first, lines⟩

/-- Putting a value where it goes. -/
theorem put {value : Written} {frames : List Frame} (e : l.put value frames = some l')
    (lines : ∀ line ∈ l.lines.dropLast, line.KeysStart tokens)
    (hf : l.lines ≠ [] → ∀ f ∈ frames, f.KeysStart tokens) : l'.KeysStart tokens := by
  unfold Layout.put at e
  split at e
  · cases e
  · exact add e lines (fun later => (List.forall_mem_cons.1 (hf later)).1) trivial
  · cases e
    exact ⟨lines, fun later => (List.forall_mem_cons.1 (hf later)).2⟩
  · cases e
    exact ⟨lines, fun later => (List.forall_mem_cons.1 (hf later)).2⟩

theorem readItem {frames : List Frame} (e : l.readItem frames t = some l')
    (lines : ∀ line ∈ l.lines.dropLast, line.KeysStart (tokens ++ [t]))
    (hf : l.lines ≠ [] → ∀ f ∈ frames, f.KeysStart (tokens ++ [t])) :
    l'.KeysStart (tokens ++ [t]) := by
  unfold Layout.readItem at e
  split at e
  · next hn =>
    exact add e lines (fun later => (List.forall_mem_cons.1 (hf later)).1) ⟨tokens, t, rfl, hn⟩
  · cases e
    exact ⟨lines, hf⟩
  · split at e <;> cases e
    exact ⟨lines, fun later => List.forall_mem_cons.2 ⟨trivial, hf later⟩⟩
  · split at e <;> cases e
    exact ⟨lines, hf⟩
  · exact put e lines fun later => (List.forall_mem_cons.1 (hf later)).2
  · exact put e lines fun later => (List.forall_mem_cons.1 (hf later)).2
  · exact put e lines hf
  · cases e
    exact ⟨lines, hf⟩
  · cases e
    exact ⟨lines, hf⟩
  · cases e

theorem readFieldKey {start : Nat} {fields : List (WrittenKey × Written)} {outer : List Frame}
    {key : OpenKey} {pastNewline : Bool}
    (e : l.readFieldKey start fields outer key pastNewline t = some l')
    (hm : l.mode = .fieldKey start fields outer key pastNewline)
    (lines : ∀ line ∈ l.lines.dropLast, line.KeysStart tokens)
    (hf : l.lines ≠ [] → ∀ f ∈ outer, f.KeysStart tokens) : l'.KeysStart tokens := by
  unfold Layout.readFieldKey at e
  split at e
  · split at e <;> cases e
    · exact ⟨lines, by rw [hm]; exact hf⟩
    · exact ⟨lines, hf⟩
  · split at e <;> exact put e lines hf
  · cases e
    exact ⟨lines, fun later => List.forall_mem_cons.2 ⟨trivial, hf later⟩⟩
  · split at e
    · cases e
    · rw [Option.bind_eq_bind, Option.bind_eq_some_iff] at e
      obtain ⟨key, -, e⟩ := e
      cases e
      exact ⟨lines, hf⟩

theorem readHeader {start : Nat} {ofArray : Bool} {key : OpenKey}
    (e : l.readHeader start ofArray key t = some l')
    (lines : ∀ line ∈ l.lines.dropLast, line.KeysStart (tokens ++ [t])) :
    l'.KeysStart (tokens ++ [t]) := by
  unfold Layout.readHeader at e
  split at e
  · cases e
    exact ⟨lines, fun _ => trivial⟩
  dsimp only at e
  split at e
  · split at e
    · cases e
      exact ⟨lines, fun _ => trivial⟩
    · exact add e lines (fun _ => trivial) trivial
  split at e
  · refine add e lines (fun _ => trivial) ?_
    split
    · next hn => exact ⟨tokens, t, rfl, hn⟩
    · trivial
  · cases e

/-- Reading the first part of a key at the start of a line. -/
theorem lineKey_of_endsLine {key : OpenKey} (front : EndsLine tokens)
    (e : OpenKey.start.read? t = some key) :
    (LayoutMode.lineKey key).KeysStart (tokens ++ [t]) := by
  rcases OpenKey.read?_eq_some e with ⟨word, ht, -, rfl⟩ | rfl
  · refine ⟨by simp, fun w hw _ => ?_⟩
    obtain rfl := List.singleton_inj.1 hw
    exact ⟨tokens, t, front, rfl, ht, rfl⟩
  · exact ⟨by simp [OpenKey.fill, OpenKey.start], by simp⟩

/-- Reading on in a key that a line starts with makes it a key with dots. -/
theorem lineKey_of_lineKey {key key' : OpenKey}
    (h : (LayoutMode.lineKey key).KeysStart tokens) (e : key.read? t = some key') :
    (LayoutMode.lineKey key').KeysStart (tokens ++ [t]) := by
  rcases OpenKey.read?_eq_some e with ⟨word, -, -, rfl⟩ | rfl
  · exact ⟨by simp, fun w hw _ => absurd (List.cons.inj hw).2 h.1⟩
  · exact ⟨OpenKey.fill_ne_nil h.1 _, by simp⟩

/-- A key that an equals sign completes. -/
theorem startsLine_of_lineKey {key : OpenKey} (h : (LayoutMode.lineKey key).KeysStart tokens)
    (he : t.lexeme = .equals) : WrittenKey.StartsLine (tokens ++ [t]) (key.finish t.start) := by
  intro w hw _
  rw [OpenKey.finish, List.reverse_eq_iff, List.reverse_singleton, OpenKey.fill] at hw
  split at hw
  · exact absurd (List.cons.inj hw).2 h.1
  · next wants => exact (h.2 w hw (by simpa using wants)).startsLine he

/-- Reading a token at the start of a line. -/
theorem readLineStart (lines : ∀ line ∈ l.lines.dropLast, line.KeysStart (tokens ++ [t]))
    (front : l.lines ≠ [] → EndsLine tokens) (hm : l.mode = .lineStart)
    (e : l.read t = some l') : l'.KeysStart (tokens ++ [t]) := by
  rw [Layout.read, hm] at e
  dsimp only at e
  split at e
  · next hn =>
    cases e
    refine ⟨lines, fun _ => ?_⟩
    rw [hm]
    exact ⟨tokens, t, rfl, hn⟩
  · cases e
    exact ⟨lines, fun _ => trivial⟩
  · cases e
    refine ⟨lines, fun _ => List.forall_mem_singleton.2 ?_⟩
    intro w hw present
    obtain rfl := List.singleton_inj.1 hw
    exact absurd rfl present
  · rw [Option.bind_eq_bind, Option.bind_eq_some_iff] at e
    obtain ⟨key, hk, e⟩ := e
    cases e
    exact ⟨lines, fun later => lineKey_of_endsLine (front later) hk⟩

/-- Reading a token in the key that a line starts with. -/
theorem readLineKey {key : OpenKey}
    (lines : ∀ line ∈ l.lines.dropLast, line.KeysStart (tokens ++ [t]))
    (opened : l.lines ≠ [] → (LayoutMode.lineKey key).KeysStart tokens)
    (hm : l.mode = .lineKey key) (e : l.read t = some l') : l'.KeysStart (tokens ++ [t]) := by
  rw [Layout.read, hm] at e
  dsimp only at e
  split at e
  · next he =>
    cases e
    exact ⟨lines,
      fun later => List.forall_mem_singleton.2 (startsLine_of_lineKey (opened later) he)⟩
  · rw [Option.bind_eq_bind, Option.bind_eq_some_iff] at e
    obtain ⟨key, hk, e⟩ := e
    cases e
    exact ⟨lines, fun later => lineKey_of_lineKey (opened later) hk⟩

/-- Reading a token outside a word of a value. -/
theorem read (h : l.KeysStart tokens) (e : l.read t = some l') : l'.KeysStart (tokens ++ [t]) := by
  have lines line (hl : line ∈ l.lines.dropLast) := (h.lines line hl).append [t]
  have mode := h.mode
  cases hm : l.mode
  case lineStart => exact readLineStart lines (by rwa [hm] at mode) hm e
  case lineKey key => exact readLineKey lines (by rwa [hm] at mode) hm e
  all_goals
    rw [Layout.read, hm] at e
    rw [hm] at mode
    dsimp only at e
  -- headers have no part in this, and a line behind one starts behind a newline
  case bracket start =>
    split at e
    · cases e
      exact ⟨lines, fun _ => trivial⟩
    · exact readHeader e lines
  case header start ofArray key => exact readHeader e lines
  case closing start key =>
    split at e
    · exact add e lines (fun _ => trivial) trivial
    · cases e
  case skip =>
    split at e
    · next hn =>
      cases e
      exact ⟨lines, fun _ => ⟨tokens, t, rfl, hn⟩⟩
    · cases e
      exact ⟨lines, fun _ => by rw [hm]; trivial⟩
  case lineEnd =>
    split at e
    · next hn =>
      cases e
      exact ⟨lines, fun _ => ⟨tokens, t, rfl, hn⟩⟩
    · cases e
  case item frames => exact readItem e lines fun later f hf => (mode later f hf).append [t]
  case bare => cases e
  case afterItem start items outer =>
    have frames later f (hf : f ∈ outer) := (mode later f hf).append [t]
    split at e
    · cases e
      exact ⟨lines, by rw [hm]; exact frames⟩
    · cases e
      exact ⟨lines, fun later => List.forall_mem_cons.2 ⟨trivial, frames later⟩⟩
    · exact put e lines frames
    · cases e
  case fieldKey start fields outer key pastNewline =>
    exact readFieldKey e hm lines fun later f hf => (mode later f hf).append [t]
  case afterField start fields outer =>
    have frames later f (hf : f ∈ outer) := (mode later f hf).append [t]
    split at e
    · cases e
      exact ⟨lines, by rw [hm]; exact frames⟩
    · cases e
      exact ⟨lines, frames⟩
    · exact put e lines frames
    · cases e

/-- Reading a token. -/
theorem step (h : l.KeysStart tokens) (e : l.step t = some l') : l'.KeysStart (tokens ++ [t]) := by
  unfold Layout.step at e
  split at e
  · next frames start stop text hm =>
    have lines line (hl : line ∈ l.lines.dropLast) := (h.lines line hl).append [t]
    have mode := h.mode
    rw [hm] at mode
    split at e
    · cases e
      exact ⟨lines, fun later f hf => (mode later f hf).append [t]⟩
    · cases e
      exact ⟨lines, fun later f hf => (mode later f hf).append [t]⟩
    · rw [Option.bind_eq_bind, Option.bind_eq_some_iff] at e
      obtain ⟨put', hp, e⟩ := e
      exact (put hp h.lines mode).read e
  · exact h.read e

theorem foldlM_step {more : List Token} (h : l.KeysStart tokens)
    (e : more.foldlM Layout.step l = some l') : l'.KeysStart (tokens ++ more) :=
  Option.of_foldlM_eq_some (P := fun read l => l.KeysStart read) (fun _ _ _ _ h e => h.step e) h e

end Layout.KeysStart

/-- **All lines of a text but the first one start with their keys.** -/
theorem Line.startsLine_of_ofTokens? {tokens : List Token} {lines : List Line}
    (h : Line.ofTokens? tokens = some lines) {key : WrittenKey} {value : Written}
    (hl : .field key value ∈ lines.tail) : key.StartsLine tokens := by
  rw [Line.ofTokens?, Option.bind_eq_bind, Option.bind_eq_some_iff] at h
  obtain ⟨l, run, h⟩ := h
  have start : Layout.KeysStart [] ⟨[], .lineStart⟩ := ⟨by simp, fun h => absurd rfl h⟩
  split at h
  · cases h
    rw [List.tail_reverse, List.mem_reverse] at hl
    exact (start.foldlM_step run).lines _ hl
  · cases h

end GradleScript.Toml
