import GradleScript.Toml.Quotation

/-!
# Tokens of a TOML text

A text is cut into tokens by a scanner that reads one character at a time. Comments and white
space make no tokens; each token says which white space stands in front of it. A text has no
tokens only if a carriage return outside quotations does not end a line, or a comment has a control
character: whatever else is wrong with a text shows in its tokens.

## Main definitions

* `Token`: a token with its place and the white space in front of it
* `Scanner.step`: what reading one character does
* `Token.scan?`: the tokens of a text
-/

namespace GradleScript.Toml

/-- What a token is. -/
inductive Lexeme where
  | newline
  | dot
  | equals
  | comma
  | openBracket
  | closeBracket
  | openBrace
  | closeBrace
  /-- A run of characters that starts with no quotation mark. -/
  | bare (text : List Char)
  | quoted (quotation : Quotation)
  deriving DecidableEq, Repr

/-- A token of a text. -/
structure Token where
  lexeme : Lexeme
  /-- The white space between it and the token before. -/
  gap : List Char
  /-- Its first byte. -/
  start : Nat
  /-- The byte after its last one. -/
  stop : Nat
  deriving DecidableEq, Repr

/-- Where a token stands. -/
def Token.span (t : Token) : Span := .between t.start t.stop

/-- A quotation whose end has not been read. -/
structure OpenQuotation where
  gap : List Char
  start : Nat
  /-- Its quotation mark. A backslash is special only between double marks. -/
  mark : Char
  /-- Whether it is between triple marks. -/
  long : Bool
  /-- What has been read of it, last character first. -/
  text : List Char

namespace OpenQuotation

/-- The quotation with one more character. -/
def push (q : OpenQuotation) (c : Char) : OpenQuotation :=
  { q with text := c :: q.text }

/-- The quotation with some more of its own marks. -/
def pushMarks (q : OpenQuotation) (count : Nat) : OpenQuotation :=
  { q with text := List.replicate count q.mark ++ q.text }

/-- The token of the quotation, which ends at byte `stop`, with closing marks or without. -/
def token (q : OpenQuotation) (closed : Bool) (stop : Nat) : Token :=
  ⟨.quoted ⟨q.mark, q.long, closed, q.text.reverse⟩, q.gap, q.start, stop⟩

end OpenQuotation

/-- What the scanner is in the middle of. White space and text are kept last character first. -/
inductive ScanMode where
  /-- Between tokens, with the white space since the last one. -/
  | between (gap : List Char)
  /-- After a carriage return that has to end a line. -/
  | afterReturn (gap : List Char)
  /-- In a comment. -/
  | comment
  /-- In a run of characters that starts with no quotation mark. -/
  | bare (gap : List Char) (start : Nat) (text : List Char)
  /-- After the first quotation mark of a quotation, or after its first two. -/
  | opened (q : OpenQuotation) (second : Bool)
  /-- In a quotation. -/
  | inside (q : OpenQuotation)
  /-- In a quotation between triple marks, after some quotation marks in a row. -/
  | marks (q : OpenQuotation) (count : Nat)
  /-- After a backslash in a quotation. -/
  | escape (q : OpenQuotation)

/-- The scanner: how many bytes it has read, what it is in the middle of, and the tokens so far,
last one first. -/
structure Scanner where
  offset : Nat
  mode : ScanMode
  tokens : List Token

/-- How many quotation marks in a row a quotation between triple marks can end with: two of its own
and three that close it. -/
def maxMarks : Nat := 5

/-- The token that one character makes by itself. -/
def Lexeme.ofChar? : Char → Option Lexeme
  | '.' => some .dot
  | '=' => some .equals
  | ',' => some .comma
  | '[' => some .openBracket
  | ']' => some .closeBracket
  | '{' => some .openBrace
  | '}' => some .closeBrace
  | '\n' => some .newline
  | _ => none

/-- Whether a character ends a run that starts with no quotation mark. Quotation marks inside such
a run belong to it. -/
def endsBare (c : Char) : Bool :=
  (Lexeme.ofChar? c).isSome || c = ' ' || c = '\t' || c = '\r' || c = '#'

namespace Scanner

variable (s : Scanner)

/-- Adds a token. -/
def emit (t : Token) : Scanner :=
  { s with mode := .between [], tokens := t :: s.tokens }

/-- Goes on in another mode. -/
def goto (mode : ScanMode) : Option Scanner :=
  some { s with mode }

/-- Reads a character between tokens. -/
def readBetween (gap : List Char) (c : Char) : Option Scanner :=
  match Lexeme.ofChar? c with
  | some lexeme => some (s.emit ⟨lexeme, gap.reverse, s.offset, s.offset + 1⟩)
  | none =>
    if c = ' ' ∨ c = '\t' then s.goto (.between (c :: gap))
    else if c = '\r' then s.goto (.afterReturn gap)
    else if c = '#' then s.goto .comment
    else if c = '"' ∨ c = '\'' then s.goto (.opened ⟨gap.reverse, s.offset, c, false, []⟩ false)
    else s.goto (.bare gap s.offset [c])

/-- Ends a quotation in front of a character, and reads the character. -/
def endBefore (q : OpenQuotation) (closed : Bool) (c : Char) : Option Scanner :=
  (s.emit (q.token closed s.offset)).readBetween [] c

/-- Reads a character of a quotation. The end of a line ends one that is not between triple
marks. -/
def readInside (q : OpenQuotation) (c : Char) : Option Scanner :=
  if c = q.mark then
    if q.long then s.goto (.marks q 1) else some (s.emit (q.token true (s.offset + 1)))
  else if c = '\\' ∧ q.mark = '"' then s.goto (.escape (q.push c))
  else if c = '\n' ∧ ¬q.long then s.endBefore q false c
  else s.goto (.inside (q.push c))

/-- Reads one character in the current mode, without counting its bytes. -/
def read (c : Char) : Option Scanner :=
  match s.mode with
  | .between gap => s.readBetween gap c
  | .afterReturn gap => if c = '\n' then s.readBetween gap c else none
  | .comment =>
    if c = '\n' ∨ c = '\r' then s.readBetween [] c
    else if isControl c then none
    else some s
  | .bare gap start text =>
    if endsBare c then
      (s.emit ⟨.bare text.reverse, gap.reverse, start, s.offset⟩).readBetween [] c
    else s.goto (.bare gap start (c :: text))
  | .opened q false => if c = q.mark then s.goto (.opened q true) else s.readInside q c
  | .opened q true =>
    if c = q.mark then s.goto (.inside { q with long := true }) else s.endBefore q true c
  | .inside q => s.readInside q c
  | .marks q count =>
    if c = q.mark ∧ count < maxMarks then s.goto (.marks q (count + 1))
    else if 3 ≤ count then s.endBefore (q.pushMarks (count - 3)) true c
    else s.readInside (q.pushMarks count) c
  | .escape q =>
    if c = '\\' ∨ c = '"' then s.goto (.inside (q.push c)) else s.readInside q c

/-- Reads one character. -/
def step (c : Char) : Option Scanner :=
  (s.read c).map fun t => { t with offset := t.offset + c.utf8Size }

/-- The tokens once the whole text is read, the last one first, but for a newline at the end. -/
def finish : Option (List Token) :=
  let close (q : OpenQuotation) (closed : Bool) : Option (List Token) :=
    some (q.token closed s.offset :: s.tokens)
  match s.mode with
  | .between _ => some s.tokens
  | .afterReturn _ => none
  | .comment => some s.tokens
  | .bare gap start text => some (⟨.bare text.reverse, gap.reverse, start, s.offset⟩ :: s.tokens)
  | .opened q second => close q second
  | .inside q => close q false
  | .marks q count =>
    if 3 ≤ count then close (q.pushMarks (count - 3)) true else close (q.pushMarks count) false
  | .escape q => close q false

end Scanner

/-- A text without the byte order mark that it may start with, and the number of bytes of the
mark. -/
def dropByteOrderMark : List Char → Nat × List Char
  | [] => (0, [])
  | c :: rest => if c.toNat = 0xfeff then (c.utf8Size, rest) else (0, c :: rest)

/-- The tokens of a text. A newline ends the last line, also if the text has none there. -/
def Token.scan? (text : List Char) : Option (List Token) := do
  let (offset, cs) := dropByteOrderMark text
  let s ← cs.foldlM Scanner.step ⟨offset, .between [], []⟩
  let tokens ← s.finish
  some (⟨.newline, [], s.offset, s.offset⟩ :: tokens).reverse

end GradleScript.Toml
