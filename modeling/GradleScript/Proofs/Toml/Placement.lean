import GradleScript.Load
import GradleScript.Proofs.Except

/-!
# Where the tokens of a text stand

The tokens of a text stand in it one behind the other. In front of a token is its gap, which is
white space on the line of the token, and its place counts the bytes in front of it; only newlines
may have something else in front of them, such as a comment.

## Main definitions

* `Lexeme.Spells`: the characters that a token is written with
* `Tiles`: a text is made of some tokens and their gaps
* `Scanner.Covers`: what the scanner has made of the text so far

## Main results

* `Scanner.Covers.step`: reading a character keeps track of the text
* `Token.tiles_of_scan?`: the tokens of a text stand in it
* `Token.exists_line_of_scan?`: what a line has in front of its first equals sign
-/

namespace GradleScript.Toml

/-- Some white space within a line. -/
def IsGap (cs : List Char) : Prop := ∀ c ∈ cs, c = ' ' ∨ c = '\t'

/-- The characters that a token is written with. Of a quotation only its first mark counts. -/
def Lexeme.Spells : Lexeme → List Char → Prop
  | .bare text, cs => cs = text
  | .quoted q, cs => (q.mark = '"' ∨ q.mark = '\'') ∧ ∃ rest, cs = q.mark :: rest
  | lexeme, cs => ∃ c, cs = [c] ∧ Lexeme.ofChar? c = some lexeme

/-- A text from byte `base` on, up to the end of a token, is made of these tokens, the last one
first. -/
inductive Tiles (base : Nat) : List Char → List Token → Prop where
  | nil : Tiles base [] []
  | cons {done skipped chars : List Char} {tokens : List Token} {t : Token}
    (front : Tiles base done tokens) (spells : t.lexeme.Spells chars)
    (start : t.start = base + byteLength (done ++ skipped))
    (stop : t.stop = base + byteLength (done ++ skipped ++ chars))
    (gap : t.lexeme ≠ .newline → skipped = t.gap ∧ IsGap t.gap) :
    Tiles base (done ++ skipped ++ chars) (t :: tokens)

/-! ## Scanning -/

/-- A quotation that starts behind the text `done` and its gap. -/
structure OpenQuotation.Covers (base : Nat) (done pending : List Char) (q : OpenQuotation) :
    Prop where
  mark : q.mark = '"' ∨ q.mark = '\''
  gap : IsGap q.gap
  start : q.start = base + byteLength (done ++ q.gap)
  chars : ∃ rest, pending = q.gap ++ q.mark :: rest

/-- What the scanner is in the middle of when it has read `pending` behind the text `done`. -/
def ScanMode.Covers (base : Nat) (done pending : List Char) : ScanMode → Prop
  | .between gap => pending = gap.reverse ∧ IsGap gap.reverse
  | .afterReturn _ => True
  | .comment => True
  | .bare gap start text => pending = gap.reverse ++ text.reverse ∧ IsGap gap.reverse ∧
      start = base + byteLength (done ++ gap.reverse)
  | .opened q _ => q.Covers base done pending
  | .inside q => q.Covers base done pending
  | .marks q _ => q.Covers base done pending
  | .escape q => q.Covers base done pending

/-- The tokens of the scanner make up the text but for what it is in the middle of. -/
def Scanner.Covers (base : Nat) (text : List Char) (s : Scanner) : Prop :=
  ∃ done pending, text = done ++ pending ∧ Tiles base done s.tokens ∧
    s.mode.Covers base done pending

namespace OpenQuotation.Covers

variable {base : Nat} {done pending : List Char} {q : OpenQuotation}

theorem snoc (h : q.Covers base done pending) (c : Char) : q.Covers base done (pending ++ [c]) := by
  obtain ⟨rest, rfl⟩ := h.chars
  exact ⟨h.mark, h.gap, h.start, rest ++ [c], by simp⟩

theorem push (h : q.Covers base done pending) (c : Char) :
    (q.push c).Covers base done (pending ++ [c]) :=
  ⟨h.mark, h.gap, h.start, (h.snoc c).chars⟩

theorem pushMarks (h : q.Covers base done pending) (count : Nat) :
    (q.pushMarks count).Covers base done pending :=
  ⟨h.mark, h.gap, h.start, h.chars⟩

/-- The token of a quotation stands behind the others. -/
theorem tiles (h : q.Covers base done pending) {tokens : List Token}
    (front : Tiles base done tokens) (closed : Bool) {stop : Nat}
    (hs : stop = base + byteLength (done ++ pending)) :
    Tiles base (done ++ pending) (q.token closed stop :: tokens) := by
  obtain ⟨rest, rfl⟩ := h.chars
  rw [← List.append_assoc] at hs ⊢
  exact .cons front ⟨h.mark, rest, rfl⟩ h.start hs fun _ => ⟨rfl, h.gap⟩

end OpenQuotation.Covers

theorem utf8Size_of_ofChar? {c : Char} {lexeme : Lexeme} (h : Lexeme.ofChar? c = some lexeme) :
    c.utf8Size = 1 := by
  unfold Lexeme.ofChar? at h
  split at h <;> first | rfl | simp at h

theorem Lexeme.spells_of_ofChar? {c : Char} {lexeme : Lexeme}
    (h : Lexeme.ofChar? c = some lexeme) : lexeme.Spells [c] := by
  have hc := h
  unfold Lexeme.ofChar? at h
  split at h <;> first | (cases h; exact ⟨_, rfl, hc⟩) | simp at h

/-- The token tells which character makes it. -/
theorem ofChar?_inj {c d : Char} {lexeme : Lexeme} (hc : Lexeme.ofChar? c = some lexeme)
    (hd : Lexeme.ofChar? d = some lexeme) : c = d := by
  unfold Lexeme.ofChar? at hc hd
  split at hc <;> cases hc <;> split at hd <;> simp_all

namespace Scanner

variable {base : Nat} {done pending text : List Char} {s s' : Scanner} {c : Char}

/-- The scanner after a token. -/
theorem Covers.between {tokens : List Token} {offset : Nat} (h : Tiles base text tokens) :
    Covers base text ⟨offset, .between [], tokens⟩ :=
  ⟨text, [], (List.append_nil text).symm, h, rfl, by simp [IsGap]⟩

/-- Going on with one more character behind the tokens. -/
theorem Covers.goto {mode : ScanMode} (e : s.goto mode = some s') (tiles : Tiles base done s.tokens)
    (hm : mode.Covers base done (pending ++ [c])) :
    s'.offset = s.offset ∧ s'.Covers base (done ++ pending ++ [c]) := by
  cases e
  exact ⟨rfl, done, pending ++ [c], List.append_assoc .., tiles, hm⟩

/-- Reading a character between tokens. What stands in front of it is a gap, unless the character
ends the line. -/
theorem Covers.readBetween {gap : List Char} (tiles : Tiles base done s.tokens)
    (offset : s.offset = base + byteLength (done ++ pending))
    (hp : c = '\n' ∨ c = '\r' ∨ pending = gap.reverse ∧ IsGap gap.reverse)
    (e : s.readBetween gap c = some s') :
    s'.offset = s.offset ∧ s'.Covers base (done ++ pending ++ [c]) := by
  unfold Scanner.readBetween at e
  split at e
  · next lexeme hc =>
    cases e
    have stop : s.offset + 1 = base + byteLength (done ++ pending ++ [c]) := by
      rw [byteLength_append _ [c], offset, byteLength_cons, utf8Size_of_ofChar? hc, byteLength_nil]
      omega
    refine ⟨rfl, .between (.cons tiles (Lexeme.spells_of_ofChar? hc) offset stop fun ne => ?_)⟩
    rcases hp with rfl | rfl | hp
    · cases hc
      exact absurd rfl ne
    · cases hc
    · exact hp
  · next hc =>
    have inLine (h : c ≠ '\r') : pending = gap.reverse ∧ IsGap gap.reverse := by
      rcases hp with rfl | rfl | hp
      · cases hc
      · exact absurd rfl h
      · exact hp
    split at e
    · next blank =>
      obtain ⟨rfl, isGap⟩ := inLine (by rintro rfl; simp at blank)
      refine goto e tiles ⟨(List.reverse_cons ..).symm, ?_⟩
      intro d hd
      rcases List.mem_cons.1 (List.mem_reverse.1 hd) with rfl | hd
      · exact blank
      · exact isGap d (List.mem_reverse.2 hd)
    split at e
    · exact goto e tiles trivial
    next noReturn =>
    obtain ⟨rfl, isGap⟩ := inLine noReturn
    split at e
    · exact goto e tiles trivial
    split at e
    · next mark => exact goto e tiles ⟨mark, isGap, offset, [], rfl⟩
    · exact goto e tiles ⟨rfl, isGap, offset⟩

/-- Reading a character right behind a token. -/
theorem Covers.readBehind {t : Token} (tiles : Tiles base text (t :: s.tokens))
    (offset : s.offset = base + byteLength text) (e : (s.emit t).readBetween [] c = some s') :
    s'.offset = s.offset ∧ s'.Covers base (text ++ [c]) := by
  have bytes : s.offset = base + byteLength (text ++ []) := by
    rw [List.append_nil]
    exact offset
  have h := readBetween (s := s.emit t) tiles bytes (.inr (.inr ⟨rfl, by simp [IsGap]⟩)) e
  rw [List.append_nil] at h
  exact h

theorem Covers.readInside {q : OpenQuotation} (tiles : Tiles base done s.tokens)
    (hq : q.Covers base done pending) (offset : s.offset = base + byteLength (done ++ pending))
    (e : s.readInside q c = some s') :
    s'.offset = s.offset ∧ s'.Covers base (done ++ pending ++ [c]) := by
  unfold Scanner.readInside at e
  split at e
  · next mark =>
    split at e
    · exact goto e tiles (hq.snoc c)
    · cases e
      have size : c.utf8Size = 1 := by
        rcases hq.mark with h | h <;> rw [mark, h] <;> rfl
      have stop : s.offset + 1 = base + byteLength (done ++ (pending ++ [c])) := by
        rw [← List.append_assoc, byteLength_append _ [c], offset, byteLength_cons, size,
          byteLength_nil]
        omega
      rw [List.append_assoc]
      exact ⟨rfl, .between ((hq.snoc c).tiles tiles true stop)⟩
  split at e
  · exact goto e tiles (hq.push c)
  split at e
  · exact readBehind (hq.tiles tiles false offset) offset e
  · exact goto e tiles (hq.push c)

/-- Reading a character keeps track of the text. -/
theorem Covers.read (h : s.Covers base text) (offset : s.offset = base + byteLength text)
    (e : s.read c = some s') : s'.offset = s.offset ∧ s'.Covers base (text ++ [c]) := by
  obtain ⟨done, pending, rfl, tiles, mode⟩ := h
  rw [Scanner.read] at e
  cases hm : s.mode
  all_goals rw [hm] at e mode
  case between gap => exact readBetween tiles offset (.inr (.inr mode)) e
  -- only a newline is a token behind a carriage return or a comment
  case afterReturn gap =>
    dsimp only at e
    split at e
    · next hc => exact readBetween tiles offset (.inl hc) e
    · cases e
  case comment =>
    dsimp only at e
    split at e
    · next hc => exact readBetween tiles offset (hc.imp_right .inl) e
    split at e
    · cases e
    · cases e
      exact ⟨rfl, done, pending ++ [c], List.append_assoc .., tiles, by rw [hm]; trivial⟩
  case bare gap start chars =>
    obtain ⟨rfl, isGap, hs⟩ := mode
    dsimp only at e
    split at e
    · rw [← List.append_assoc] at offset ⊢
      have token : Tiles base (done ++ gap.reverse ++ chars.reverse)
          (⟨.bare chars.reverse, gap.reverse, start, s.offset⟩ :: s.tokens) :=
        .cons tiles rfl hs offset fun _ => ⟨rfl, isGap⟩
      exact readBehind token offset e
    · exact goto e tiles ⟨by simp, isGap, hs⟩
  case opened q second =>
    cases second <;> dsimp only at e
    · split at e
      · exact goto e tiles (mode.snoc c)
      · exact readInside tiles mode offset e
    · split at e
      · exact goto e tiles ⟨mode.mark, mode.gap, mode.start, (mode.snoc c).chars⟩
      · exact readBehind (mode.tiles tiles true offset) offset e
  case inside q => exact readInside tiles mode offset e
  case marks q count =>
    dsimp only at e
    split at e
    · exact goto e tiles (mode.snoc c)
    split at e
    · exact readBehind ((mode.pushMarks _).tiles tiles true offset) offset e
    · exact readInside tiles (mode.pushMarks _) offset e
  case escape q =>
    dsimp only at e
    split at e
    · exact goto e tiles (mode.push c)
    · exact readInside tiles mode offset e

/-- Reading a character counts its bytes. -/
theorem Covers.step (h : s.Covers base text) (offset : s.offset = base + byteLength text)
    (e : s.step c = some s') :
    s'.offset = base + byteLength (text ++ [c]) ∧ s'.Covers base (text ++ [c]) := by
  obtain ⟨t, ht, rfl⟩ := Option.map_eq_some_iff.1 e
  obtain ⟨same, covers⟩ := h.read offset ht
  refine ⟨?_, covers⟩
  rw [byteLength_append, ← Nat.add_assoc, ← offset, ← same]
  rfl

/-- Reading a text keeps track of it. -/
theorem Covers.foldlM_step {cs : List Char} (h : s.Covers base text)
    (offset : s.offset = base + byteLength text) (e : cs.foldlM Scanner.step s = some s') :
    s'.offset = base + byteLength (text ++ cs) ∧ s'.Covers base (text ++ cs) :=
  Option.of_foldlM_eq_some
    (P := fun read s => s.offset = base + byteLength read ∧ s.Covers base read)
    (fun _ _ _ _ h e => h.2.step h.1 e) ⟨offset, h⟩ e

/-- The tokens in the end make up the text, but for what may follow the last one. -/
theorem Covers.finish {tokens : List Token} (h : s.Covers base text)
    (offset : s.offset = base + byteLength text) (e : s.finish = some tokens) :
    ∃ done rest, text = done ++ rest ∧ Tiles base done tokens := by
  obtain ⟨done, pending, rfl, tiles, mode⟩ := h
  have last {t : Token} (ht : Tiles base (done ++ pending) (t :: s.tokens)) :
      ∃ front rest, done ++ pending = front ++ rest ∧ Tiles base front (t :: s.tokens) :=
    ⟨_, [], (List.append_nil _).symm, ht⟩
  rw [Scanner.finish] at e
  cases hm : s.mode
  all_goals
    rw [hm] at e mode
    dsimp only at e
  case between gap =>
    cases e
    exact ⟨done, pending, rfl, tiles⟩
  case afterReturn gap => cases e
  case comment =>
    cases e
    exact ⟨done, pending, rfl, tiles⟩
  case bare gap start chars =>
    cases e
    obtain ⟨rfl, isGap, hs⟩ := mode
    rw [← List.append_assoc] at offset last ⊢
    exact last (.cons tiles rfl hs offset fun _ => ⟨rfl, isGap⟩)
  case marks q count =>
    split at e
    all_goals
      cases e
      exact last ((mode.pushMarks _).tiles tiles _ offset)
  all_goals
    cases e
    exact last (mode.tiles tiles _ offset)

end Scanner

/-! ## Tokens of a text -/

theorem exists_byteOrderMark (cs : List Char) :
    ∃ front,
      cs = front ++ (dropByteOrderMark cs).2 ∧ byteLength front = (dropByteOrderMark cs).1 := by
  cases cs with
  | nil => exact ⟨[], rfl, rfl⟩
  | cons c rest =>
    rw [dropByteOrderMark]
    split
    · exact ⟨[c], rfl, by simp⟩
    · exact ⟨[], rfl, rfl⟩

/-- The tokens of a text stand in it, behind its byte order mark, but for a newline at the end. -/
theorem Token.tiles_of_scan? {text : List Char} {tokens : List Token}
    (h : Token.scan? text = some tokens) :
    ∃ front done rest others last, text = front ++ done ++ rest ∧
      Tiles (byteLength front) done others ∧ tokens = others.reverse ++ [last] ∧
      last.lexeme = .newline := by
  simp only [Token.scan?, Option.bind_eq_bind, Option.bind_eq_some_iff, Option.some.injEq] at h
  obtain ⟨s, run, others, finished, rfl⟩ := h
  obtain ⟨front, e, bytes⟩ := exists_byteOrderMark text
  have start :
      (Scanner.mk (dropByteOrderMark text).1 (.between []) []).Covers (byteLength front) [] :=
    .between .nil
  obtain ⟨offset, covers⟩ := start.foldlM_step (by simp [bytes]) run
  obtain ⟨done, rest, split, tiles⟩ := covers.finish offset finished
  refine ⟨front, done, rest, others, _, ?_, tiles, List.reverse_cons, rfl⟩
  rw [e, List.append_assoc, ← split, List.nil_append]

theorem Tiles.of_append {base : Nat} {text : List Char} {tokens later : List Token}
    (h : Tiles base text (later ++ tokens)) :
    ∃ done rest, text = done ++ rest ∧ Tiles base done tokens := by
  induction later generalizing text with
  | nil => exact ⟨text, [], (List.append_nil text).symm, h⟩
  | cons t later ih =>
    cases h with
    | @cons done skipped chars _ _ front =>
      obtain ⟨before, rest, rfl, tiles⟩ := ih front
      exact ⟨before, rest ++ skipped ++ chars, by simp, tiles⟩

/-- **What a line has in front of its first equals sign.** If a newline, another token and an
equals sign follow one another, then the text has a line that starts with the characters of that
token, with nothing but gaps around them. -/
theorem Token.exists_line_of_scan? {text : List Char} {tokens front back : List Token}
    {newline t equals : Token} (h : Token.scan? text = some tokens)
    (e : tokens = front ++ newline :: t :: equals :: back) (hn : newline.lexeme = .newline)
    (ht : t.lexeme ≠ .newline) (he : equals.lexeme = .equals) :
    ∃ above chars rest, text = above ++ '\n' :: (t.gap ++ chars ++ equals.gap ++ '=' :: rest) ∧
      IsGap t.gap ∧ IsGap equals.gap ∧ t.lexeme.Spells chars ∧
      t.span = ⟨byteLength (above ++ '\n' :: t.gap), byteLength chars⟩ := by
  obtain ⟨mark, done, rest, others, last, rfl, tiles, rfl, hl⟩ := Token.tiles_of_scan? h
  -- the three tokens stand in the text, since the equals sign is not the newline at the end
  obtain ⟨later, rfl⟩ : ∃ later, others = later ++ equals :: t :: newline :: front.reverse := by
    rcases List.eq_nil_or_concat back with rfl | ⟨b, l, rfl⟩
    · have same : others.reverse ++ [last] = front ++ [newline, t] ++ [equals] := by simpa using e
      obtain rfl : last = equals := by simpa using (List.append_inj' same rfl).2
      cases hl.symm.trans he
    · have same : others.reverse ++ [last] = front ++ newline :: t :: equals :: b ++ [l] := by
        simpa using e
      have reversed := congrArg List.reverse (List.append_inj' same rfl).1
      exact ⟨b.reverse, by simpa using reversed⟩
  obtain ⟨covered, more, rfl, three⟩ := tiles.of_append
  cases three with
  | cons two hequals _ _ gapEquals =>
  cases two with
  | @cons _ _ chars _ _ one spells start stop gap =>
  cases one with
  | @cons before skipped _ _ _ _ hnewline _ _ _ =>
  obtain ⟨rfl, isGap⟩ := gap ht
  obtain ⟨rfl, isGap'⟩ := gapEquals (by rw [he]; decide)
  rw [hn] at hnewline
  rw [he] at hequals
  obtain ⟨c, rfl, hc⟩ := hnewline
  obtain ⟨d, rfl, hd⟩ := hequals
  obtain rfl : c = '\n' := ofChar?_inj hc rfl
  obtain rfl : d = '=' := ofChar?_inj hd rfl
  refine ⟨mark ++ before ++ skipped, chars, more ++ rest, by simp, isGap, isGap', spells, ?_⟩
  rw [Token.span, Span.between, start, stop]
  simp only [byteLength_append, byteLength_cons, byteLength_nil, Span.mk.injEq]
  omega

end GradleScript.Toml
