/-!
# Text of any bytes

Bytes are shown as text by reading them as UTF-8 and putting a replacement character in the place
of what is ill-formed: one for each longest start of a character that breaks off, and one for each
byte that starts no character.

## Main definitions

* `Text.Sequence`: a character of which some bytes have been read
* `Text.ofBytes`: the text that some bytes are shown as
-/

namespace GradleScript.Text

/-- What stands in the place of ill-formed bytes. -/
def replacement : Char := '\ufffd'

/-- A character of which some bytes have been read. -/
structure Sequence where
  /-- How many bytes have to come. -/
  left : Nat
  /-- What the bytes read so far contribute to the code point. -/
  value : Nat
  /-- The least byte that can come next. -/
  low : Nat
  /-- The greatest byte that can come next. -/
  high : Nat
  deriving DecidableEq, Repr

/-- The character that a first byte starts, when more bytes have to come. The bounds on the next
byte leave out overlong forms, surrogates and numbers that are no code point. -/
def Sequence.start? (byte : Nat) : Option Sequence :=
  if byte < 0xc2 then none
  else if byte < 0xe0 then some ⟨1, byte - 0xc0, 0x80, 0xbf⟩
  else if byte < 0xf0 then
    some ⟨2, byte - 0xe0, if byte = 0xe0 then 0xa0 else 0x80, if byte = 0xed then 0x9f else 0xbf⟩
  else if byte < 0xf5 then
    some ⟨3, byte - 0xf0, if byte = 0xf0 then 0x90 else 0x80, if byte = 0xf4 then 0x8f else 0xbf⟩
  else none

/-- Reads a byte between characters: what is shown for it, and the character that it starts. -/
def readFirst (byte : Nat) : List Char × Option Sequence :=
  if byte < 0x80 then ([Char.ofNat byte], none)
  else
    match Sequence.start? byte with
    | some s => ([], some s)
    | none => ([replacement], none)

/-- Reads a byte after the start of a character. A byte that does not belong to the character
breaks it off. -/
def Sequence.read (s : Sequence) (byte : Nat) : List Char × Option Sequence :=
  if s.low ≤ byte ∧ byte ≤ s.high then
    let value := 64 * s.value + (byte - 0x80)
    if s.left ≤ 1 then ([Char.ofNat value], none)
    else ([], some ⟨s.left - 1, value, 0x80, 0xbf⟩)
  else
    let (shown, next) := readFirst byte
    (replacement :: shown, next)

/-- The characters that some bytes are shown as, after the start of a character if there is one. -/
def charsOfBytes : Option Sequence → List UInt8 → List Char
  | none, [] => []
  | some _, [] => [replacement]
  | none, b :: rest => (readFirst b.toNat).1 ++ charsOfBytes (readFirst b.toNat).2 rest
  | some s, b :: rest => (s.read b.toNat).1 ++ charsOfBytes (s.read b.toNat).2 rest

/-- The text that some bytes are shown as. -/
def ofBytes (bytes : ByteArray) : String :=
  String.ofList (charsOfBytes none bytes.toList)

@[simp] theorem charsOfBytes_nil : charsOfBytes none [] = [] := rfl

/-- A byte below 128 is a character of its own. -/
theorem charsOfBytes_ascii (b : UInt8) (h : b.toNat < 0x80) (rest : List UInt8) :
    charsOfBytes none (b :: rest) = Char.ofNat b.toNat :: charsOfBytes none rest := by
  simp [charsOfBytes, readFirst, h]

/-- A character that breaks off at the end of the bytes is shown as one replacement. -/
example : charsOfBytes none [0xf0, 0x9f, 0x92] = [replacement] := by decide

/-- Each byte of a surrogate is shown as a replacement. -/
example : charsOfBytes none [0xed, 0xa0, 0x80] = [replacement, replacement, replacement] := by
  decide

end GradleScript.Text
