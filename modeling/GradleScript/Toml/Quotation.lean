import GradleScript.Toml.Scalar

/-!
# Quotations

A quotation is a text between quotation marks. Between double marks a backslash starts an escape,
between single marks no character is special. Between triple marks a text may have several lines:
a newline right after the opening marks does not count, and an escape at the end of a line skips
the white space up to the next character that shows.

Every quotation that is found in a text can be written down here, also one without closing marks;
only decoding says whether it stands for a text.

## Main definitions

* `Quotation`: a quotation as it is written
* `Quotation.decode?`: the text that it stands for
-/

namespace GradleScript.Toml

/-- A quotation as it is written. -/
structure Quotation where
  /-- Its quotation mark. -/
  mark : Char
  /-- Whether it is between triple marks. -/
  long : Bool
  /-- Whether it has closing marks. -/
  closed : Bool
  /-- What is written between the marks. -/
  text : List Char
  deriving DecidableEq, Repr

/-- Whether a character is a control character other than the tab. -/
def isControl (c : Char) : Bool :=
  (c.toNat < 0x20 && c != '\t') || c.toNat == 0x7f

/-- Whether some carriage return does not end a line. -/
def hasLoneReturn : List Char → Bool
  | [] => false
  | '\r' :: '\n' :: rest => hasLoneReturn rest
  | c :: rest => c = '\r' || hasLoneReturn rest

/-- The character that a letter after a backslash stands for. -/
def simpleEscape? : Char → Option Char
  | 'b' => some '\x08'
  | 'e' => some '\x1b'
  | 'f' => some '\x0c'
  | 'n' => some '\n'
  | 'r' => some '\r'
  | 't' => some '\t'
  | '"' => some '"'
  | '\\' => some '\\'
  | _ => none

/-- How many digits follow a letter that announces a number. -/
def codeLength? : Char → Option Nat
  | 'x' => some 2
  | 'u' => some 4
  | 'U' => some 8
  | _ => none

/-- What decoding is in the middle of. -/
inductive DecodeMode where
  /-- Between characters. -/
  | plain
  /-- After a backslash. -/
  | escape
  /-- In an escape by number, with some digits to come. -/
  | code (left value : Nat)
  /-- After a backslash at the end of a line, in white space that does not count. -/
  | fold (pastNewline : Bool)
  deriving DecidableEq, Repr

/-- The part of a quotation that has been decoded, last character first. -/
structure Decoded where
  text : List Char
  mode : DecodeMode

namespace Decoded

variable (d : Decoded)

/-- Adds a character. -/
def push (c : Char) : Option Decoded :=
  some ⟨c :: d.text, .plain⟩

/-- Goes on in another mode. -/
def goto (mode : DecodeMode) : Option Decoded :=
  some { d with mode }

/-- Reads a character between others. -/
def readPlain (q : Quotation) (c : Char) : Option Decoded :=
  if c = '\\' ∧ q.mark = '"' then d.goto .escape
  else if c = '\n' ∨ c = '\r' then if q.long then d.push c else none
  else if isControl c then none
  else d.push c

/-- Reads a character after a backslash. -/
def readEscape (q : Quotation) (c : Char) : Option Decoded :=
  match simpleEscape? c, codeLength? c with
  | some e, _ => d.push e
  | none, some n => d.goto (.code n 0)
  | none, none =>
    if q.long then
      if c = '\n' then d.goto (.fold true)
      else if c = ' ' ∨ c = '\t' ∨ c = '\r' then d.goto (.fold false)
      else none
    else none

/-- Reads a digit of an escape by number. The last one completes a character, unless the number is
no character's. -/
def readCode (left value : Nat) (c : Char) : Option Decoded :=
  if isHexDigit c then
    let value := 16 * value + hexValue c
    if 1 < left then d.goto (.code (left - 1) value)
    else if value.isValidChar then d.push (Char.ofNat value)
    else none
  else none

/-- Reads a character where white space does not count. -/
def readFold (q : Quotation) (pastNewline : Bool) (c : Char) : Option Decoded :=
  if c = '\n' then d.goto (.fold true)
  else if c = ' ' ∨ c = '\t' ∨ c = '\r' then d.goto (.fold pastNewline)
  else if pastNewline then d.readPlain q c
  else none

/-- Reads one character. -/
def step (q : Quotation) (c : Char) : Option Decoded :=
  match d.mode with
  | .plain => d.readPlain q c
  | .escape => d.readEscape q c
  | .code left value => d.readCode left value c
  | .fold pastNewline => d.readFold q pastNewline c

/-- The text, if decoding may end here. -/
def finish : Option String :=
  match d.mode with
  | .plain => some (String.ofList d.text.reverse)
  | .fold true => some (String.ofList d.text.reverse)
  | _ => none

end Decoded

/-- A text without the newline that it may start with. -/
def dropNewline : List Char → List Char
  | '\n' :: rest => rest
  | '\r' :: '\n' :: rest => rest
  | cs => cs

namespace Quotation

/-- What counts of the text between the marks. -/
def body (q : Quotation) : List Char :=
  if q.long then dropNewline q.text else q.text

/-- The text that a quotation stands for. -/
def decode? (q : Quotation) : Option String :=
  if q.closed && !hasLoneReturn q.text then do
    let d ← q.body.foldlM (fun d c => d.step q c) (⟨[], .plain⟩ : Decoded)
    d.finish
  else none

end Quotation

end GradleScript.Toml
