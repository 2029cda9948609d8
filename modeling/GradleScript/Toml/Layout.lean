import GradleScript.Toml.Token

/-!
# The layout of a TOML text

The layout of a text is the list of its lines: headers, and keys with their values, where arrays
and tables in braces are taken apart but words are left as they are written. A text has a layout
if its brackets, commas and equals signs are where they belong; whether a word stands for anything,
and whether keys go together, is no matter of layout. A word that is missing between dots, or at
the end of a line or of a table in braces, stands in the layout as a word without characters.

## Main definitions

* `Written`: a value as it is written
* `Line`: a line of a layout
* `Layout.step`: what reading one token does
* `Line.ofTokens?`: the lines of a text
-/

namespace GradleScript.Toml

/-- What is written in one place of a key or a value. -/
inductive Word where
  /-- Characters without quotation marks around them; none at all if the word is missing. -/
  | bare (text : List Char)
  | quoted (quotation : Quotation)
  deriving DecidableEq, Repr

/-- A word with its place in the text. -/
structure PlacedWord where
  word : Word
  span : Span
  deriving DecidableEq, Repr

/-- The word that is missing at some byte. -/
def PlacedWord.missing (offset : Nat) : PlacedWord := ⟨.bare [], .between offset offset⟩

/-- A key as it is written: its parts in order. -/
abbrev WrittenKey := List PlacedWord

/-- A value as it is written. -/
inductive Written where
  | word (word : PlacedWord)
  /-- An array in brackets. -/
  | array (span : Span) (items : List Written)
  /-- A table in braces. -/
  | table (span : Span) (fields : List (WrittenKey × Written))

/-- A line of a layout, which may go on over several lines of the text. -/
inductive Line where
  | field (key : WrittenKey) (value : Written)
  /-- The header of a table, or of the next table of an array. -/
  | header (ofArray : Bool) (span : Span) (key : WrittenKey)

/-- How many parts a key may have, and how deep arrays and tables in braces may be nested. -/
def maxDepth : Nat := 80

/-- A key that is being read: its parts, the last one first, and whether one more has to come. -/
structure OpenKey where
  parts : List PlacedWord
  wantsPart : Bool

namespace OpenKey

/-- The key of which nothing is read. -/
def start : OpenKey := ⟨[], true⟩

/-- The key with one more part. -/
def push? (k : OpenKey) (word : Word) (span : Span) : Option OpenKey :=
  if k.wantsPart then some ⟨⟨word, span⟩ :: k.parts, false⟩ else none

/-- The parts of the key so far, the last one first. A part that has to come is missing at some
byte. -/
def fill (k : OpenKey) (offset : Nat) : List PlacedWord :=
  if k.wantsPart then .missing offset :: k.parts else k.parts

/-- Reads a part of a key or a dot. A part is missing if a dot stands in its place. -/
def read? (k : OpenKey) (t : Token) : Option OpenKey :=
  match t.lexeme with
  | .bare text => k.push? (.bare text) t.span
  | .quoted quotation => k.push? (.quoted quotation) t.span
  | .dot => some ⟨k.fill t.start, true⟩
  | _ => none

/-- The key, once it is complete. -/
def finish (k : OpenKey) (offset : Nat) : WrittenKey := (k.fill offset).reverse

end OpenKey

/-- What a value that is being read will go into. -/
inductive Frame where
  /-- A line with this key. -/
  | line (key : WrittenKey)
  /-- An array in brackets, with the items so far, the last one first. -/
  | array (start : Nat) (items : List Written)
  /-- A table in braces, at this key, with the fields so far, the last one first. -/
  | field (start : Nat) (fields : List (WrittenKey × Written)) (key : WrittenKey)

/-- What the reader of a layout is in the middle of. The innermost frame comes first. -/
inductive LayoutMode where
  /-- At the start of a line. -/
  | lineStart
  /-- In the key that a line starts with. -/
  | lineKey (key : OpenKey)
  /-- After the bracket that a line starts with. -/
  | bracket (start : Nat)
  /-- In the key of a header. -/
  | header (start : Nat) (ofArray : Bool) (key : OpenKey)
  /-- Between the two closing brackets of a header. -/
  | closing (start : Nat) (key : WrittenKey)
  /-- Behind a header that is not complete; the rest of its line does not count. -/
  | skip
  /-- Where a line has to end. -/
  | lineEnd
  /-- Where a value has to come, or the end of an array. -/
  | item (frames : List Frame)
  /-- In a word of a value without quotation marks, last character first. -/
  | bare (frames : List Frame) (start stop : Nat) (text : List Char)
  /-- After an item of an array. -/
  | afterItem (start : Nat) (items : List Written) (outer : List Frame)
  /-- In a key of a table in braces, or at the end of such a table. A line may end right after the
  key. -/
  | fieldKey (start : Nat) (fields : List (WrittenKey × Written)) (outer : List Frame)
    (key : OpenKey) (pastNewline : Bool)
  /-- After a field of a table in braces. -/
  | afterField (start : Nat) (fields : List (WrittenKey × Written)) (outer : List Frame)

/-- A layout that is being read: its lines so far, the last one first, and what comes next. -/
structure Layout where
  lines : List Line
  mode : LayoutMode

namespace Layout

variable (l : Layout)

/-- Goes on in another mode. -/
def goto (mode : LayoutMode) : Option Layout :=
  some { l with mode }

/-- Adds a line, and goes on in another mode. -/
def add (line : Line) (mode : LayoutMode) : Option Layout :=
  some ⟨line :: l.lines, mode⟩

/-- Puts a complete value where it goes. -/
def put (value : Written) : List Frame → Option Layout
  | [] => none
  | .line key :: _ => l.add (.field key value) .lineEnd
  | .array start items :: outer => l.goto (.afterItem start (value :: items) outer)
  | .field start fields key :: outer => l.goto (.afterField start ((key, value) :: fields) outer)

/-- Closes an array in brackets. -/
def closeArray (start stop : Nat) (items : List Written) (outer : List Frame) : Option Layout :=
  l.put (.array (.between start stop) items.reverse) outer

/-- Closes a table in braces. -/
def closeTable (start stop : Nat) (fields : List (WrittenKey × Written)) (outer : List Frame) :
    Option Layout :=
  l.put (.table (.between start stop) fields.reverse) outer

/-- Reads a token where a value has to come. The value of a line is missing if the line ends, and
that of a field if its table ends. -/
def readItem (frames : List Frame) (t : Token) : Option Layout :=
  match t.lexeme, frames with
  | .newline, .line key :: _ => l.add (.field key (.word (.missing t.start))) .lineStart
  | .newline, _ => l.goto (.item frames)
  | .openBracket, _ =>
    if frames.length ≤ maxDepth then l.goto (.item (.array t.start [] :: frames)) else none
  | .openBrace, _ =>
    if frames.length ≤ maxDepth then l.goto (.fieldKey t.start [] frames .start false) else none
  | .closeBracket, .array start items :: outer => l.closeArray start t.stop items outer
  | .closeBrace, .field start fields key :: outer =>
    l.closeTable start t.stop ((key, .word (.missing t.start)) :: fields) outer
  | .quoted quotation, _ => l.put (.word ⟨.quoted quotation, t.span⟩) frames
  | .bare text, _ => l.goto (.bare frames t.start t.stop text.reverse)
  | .dot, _ => l.goto (.bare frames t.start t.stop ['.'])
  | _, _ => none

/-- Reads a token in a key of a table in braces. The value of the key is missing if the table ends
right behind it. -/
def readFieldKey (start : Nat) (fields : List (WrittenKey × Written)) (outer : List Frame)
    (key : OpenKey) (pastNewline : Bool) (t : Token) : Option Layout :=
  match t.lexeme with
  | .newline =>
    if key.parts.isEmpty then some l
    else l.goto (.fieldKey start fields outer ⟨key.fill t.start, false⟩ true)
  | .closeBrace =>
    if key.parts.isEmpty then l.closeTable start t.stop fields outer
    else
      let field := (key.finish t.start, Written.word (.missing t.start))
      l.closeTable start t.stop (field :: fields) outer
  | .equals => l.goto (.item (.field start fields (key.finish t.start) :: outer))
  | _ =>
    if pastNewline then none
    else do
      let key ← key.read? t
      l.goto (.fieldKey start fields outer key false)

/-- Reads a token in the key of a header. A header whose last part is missing need not be closed. -/
def readHeader (start : Nat) (ofArray : Bool) (key : OpenKey) (t : Token) : Option Layout :=
  match key.read? t with
  | some key => l.goto (.header start ofArray key)
  | none =>
    let path := key.finish t.start
    let line := Line.header ofArray (.between start t.stop) path
    if t.lexeme = .closeBracket then
      if ofArray then l.goto (.closing start path) else l.add line .lineEnd
    else if key.wantsPart then
      l.add line (if t.lexeme = .newline then .lineStart else .skip)
    else none

/-- Reads a token in any mode but that of a word without quotation marks. -/
def read (t : Token) : Option Layout :=
  match l.mode with
  | .lineStart =>
    match t.lexeme with
    | .newline => some l
    | .openBracket => l.goto (.bracket t.start)
    | .equals => l.goto (.item [.line (OpenKey.start.finish t.start)])
    | _ => do
      let key ← OpenKey.start.read? t
      l.goto (.lineKey key)
  | .lineKey key =>
    if t.lexeme = .equals then l.goto (.item [.line (key.finish t.start)])
    else do
      let key ← key.read? t
      l.goto (.lineKey key)
  | .bracket start =>
    if t.lexeme = .openBracket ∧ t.gap = [] then l.goto (.header start true .start)
    else l.readHeader start false .start t
  | .header start ofArray key => l.readHeader start ofArray key t
  | .closing start path =>
    if t.lexeme = .closeBracket ∧ t.gap = [] then
      l.add (.header true (.between start t.stop) path) .lineEnd
    else none
  | .skip => if t.lexeme = .newline then l.goto .lineStart else some l
  | .lineEnd => if t.lexeme = .newline then l.goto .lineStart else none
  | .item frames => l.readItem frames t
  | .bare .. => none
  | .afterItem start items outer =>
    match t.lexeme with
    | .newline => some l
    | .comma => l.goto (.item (.array start items :: outer))
    | .closeBracket => l.closeArray start t.stop items outer
    | _ => none
  | .fieldKey start fields outer key pastNewline =>
    l.readFieldKey start fields outer key pastNewline t
  | .afterField start fields outer =>
    match t.lexeme with
    | .newline => some l
    | .comma => l.goto (.fieldKey start fields outer .start false)
    | .closeBrace => l.closeTable start t.stop fields outer
    | _ => none

/-- Reads one token. A word without quotation marks goes on over dots and characters right behind
it, and over white space with characters behind it, as it stands between the day and the time of a
date. -/
def step (t : Token) : Option Layout :=
  match l.mode with
  | .bare frames start stop text =>
    match t.lexeme, t.gap with
    | .bare more, gap =>
      l.goto (.bare frames start t.stop (more.reverse ++ gap.reverse ++ text))
    | .dot, [] => l.goto (.bare frames start t.stop ('.' :: text))
    | _, _ => do
      let l ← l.put (.word ⟨.bare text.reverse, .between start stop⟩) frames
      l.read t
  | _ => l.read t

end Layout

/-- The lines that some tokens are laid out in. -/
def Line.ofTokens? (tokens : List Token) : Option (List Line) := do
  let l ← tokens.foldlM Layout.step ⟨[], .lineStart⟩
  match l.mode with
  | .lineStart => some l.lines.reverse
  | _ => none

end GradleScript.Toml
