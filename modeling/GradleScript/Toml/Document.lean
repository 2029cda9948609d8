import GradleScript.Toml.Layout

/-!
# TOML documents

A document is made from the lines of its layout, in order. Headers open tables, and keys put values
into the table that is open, which is closed by the next header.

A key is defined once. A table that a longer header has implied may be opened by its own header
later, and then stands where that header puts it; a table that a dotted key has made may be
extended by dotted keys beside it, or by the header of a table inside it; a table in braces and an
array in brackets are complete as they are.

## Main definitions

* `Entries.within?`: reaches into the table at the end of a dotted key
* `Written.value`: the value that is written
* `Draft`: the document read so far
* `Draft.read`: what reading one line does
* `Document.parse`: the document of a text, or why it is none
-/

namespace GradleScript.Toml

/-- Why a text is no document. -/
inductive SyntaxError where
  /-- Something stands where it may not stand. -/
  | unexpected
  /-- A key has too many parts. It is the only error that is at no place of the text. -/
  | keyTooLong
  deriving DecidableEq, Repr

/-- A result of reading, or why there is none. -/
abbrev Parsed := Except SyntaxError

/-- What is there, or an error if nothing is. -/
def expect {α : Type} : Option α → Parsed α
  | some a => .ok a
  | none => .error .unexpected

/-- A dotted key: the parts in front, and the last one. -/
structure KeyPath where
  path : List Key
  last : Key

/-- Whether a character may stand in a key without quotation marks. -/
def isBareKeyChar (c : Char) : Bool :=
  c.isAlphanum || c = '-' || c = '_'

/-- The part of a key that a word writes. A quotation in a key has one line. -/
def PlacedWord.key? (w : PlacedWord) : Option Key :=
  match w.word with
  | .bare text =>
    if !text.isEmpty && text.all isBareKeyChar then some ⟨String.ofList text, w.span⟩ else none
  | .quoted quotation => if quotation.long then none else quotation.decode?.map (⟨·, w.span⟩)

/-- The key that is written. Its length counts once all its parts are known. -/
def KeyPath.ofWritten (key : WrittenKey) : Parsed KeyPath := do
  let keys ← expect (key.mapM PlacedWord.key?)
  match keys.reverse with
  | last :: front =>
    if front.length < maxDepth then .ok ⟨front.reverse, last⟩ else .error .keyTooLong
  | [] => .error .unexpected

namespace Entries

/-- Reaches into the table at the end of `path`, below a table with these entries, and puts back
what `act` makes of its origin and its entries. Tables that are missing on the way are made; the
way leads into the last table of an array of tables, but into no table in braces. A dotted key
leads only into tables that have no header. -/
def within? {α : Type} (dotted : Bool) (act : Origin → Entries → Option (Entries × α)) :
    (path : List Key) → Origin → Entries → Option (Entries × α)
  | [], origin, entries => act origin entries
  | key :: path, _, entries =>
    match entries.get? key.name with
    | none => do
      let origin := if dotted then .dotted else .implied
      let (inner, a) ← within? dotted act path origin []
      some (entries.add key (.table key.span origin inner), a)
    | some (.table span origin inner) =>
      if origin = .inline ∨ (dotted ∧ origin = .header) then none
      else do
        let (inner, a) ← within? dotted act path origin inner
        some (entries.set key.name (.table span origin inner), a)
    | some (.array span true items) =>
      match items.getLast? with
      | some (.table tableSpan origin inner) => do
        let (inner, a) ← within? dotted act path origin inner
        let items := items.dropLast ++ [.table tableSpan origin inner]
        some (entries.set key.name (.array span true items), a)
      | _ => none
    | some _ => none

/-- Defines a key, whose last part must be new. A dotted key goes into a table made by dotted keys
alone, and a key without dots into no such table. -/
def define? (key : KeyPath) (value : Value) (entries : Entries) : Option Entries := do
  let dotted := !key.path.isEmpty
  let put (origin : Origin) (inner : Entries) : Option (Entries × Unit) :=
    if dotted = decide (origin = .dotted) ∧ (inner.get? key.last.name).isNone then
      some (inner.add key.last value, ())
    else none
  let (entries, _) ← within? true put key.path .header entries
  some entries

end Entries

/-- The scalar that a word writes. -/
def Word.scalar? : Word → Option Scalar
  | .bare text => Scalar.ofChars? text
  | .quoted quotation => quotation.decode?.map .text

mutual

/-- The value that is written. -/
def Written.value : Written → Parsed Value
  | .word w => do
    let scalar ← expect w.word.scalar?
    .ok (.scalar w.span scalar)
  | .array span items => do
    let items ← Written.values items
    .ok (.array span false items)
  | .table span fields => do
    let entries ← Written.entries [] fields
    .ok (.table span .inline entries)

/-- The values that are written, in order. -/
def Written.values : List Written → Parsed (List Value)
  | [] => .ok []
  | w :: rest => do
    let value ← w.value
    let values ← Written.values rest
    .ok (value :: values)

/-- The entries of a table in braces, with those of its fields that come next. -/
def Written.entries (entries : Entries) : List (WrittenKey × Written) → Parsed Entries
  | [] => .ok entries
  | (key, w) :: rest => do
    let key ← KeyPath.ofWritten key
    let value ← w.value
    let entries ← expect (entries.define? key value)
    Written.entries entries rest

end

/-- The header of a table, or of the next table of an array. -/
structure Header where
  key : KeyPath
  ofArray : Bool
  span : Span

/-- The document read so far: its closed tables, and the table that is open with its header. The
document itself is open before the first header. -/
structure Draft where
  root : Entries
  header : Option Header
  current : Entries

namespace Draft

/-- The document before anything is read. -/
def empty : Draft := ⟨[], none, []⟩

/-- Defines a key of the table that is open. -/
def define? (d : Draft) (key : KeyPath) (value : Value) : Option Draft := do
  let current ← d.current.define? key value
  some { d with current }

/-- Puts a closed table at its place: at a key that is free, or behind the other tables of its
array. -/
def place? (header : Header) (table : Value) (inner : Entries) : Option (Entries × Unit) :=
  match inner.get? header.key.last.name, header.ofArray with
  | none, false => some (inner.add header.key.last table, ())
  | none, true => some (inner.add header.key.last (.array header.span true [table]), ())
  | some (.array span true items), true =>
    some (inner.set header.key.last.name (.array span true (items ++ [table])), ())
  | some _, _ => none

/-- The entries of the document, once the table that is open is closed. -/
def close? (d : Draft) : Option Entries :=
  match d.header with
  | none => some d.current
  | some header => do
    let table := Value.table header.span .header d.current
    let (root, _) ← Entries.within? false (fun _ => place? header table) header.key.path .header
      d.root
    some root

/-- Takes an implied table away from its place, to be opened by its own header. -/
def reopen? (key : Key) (inner : Entries) : Option (Entries × Entries) :=
  match inner.get? key.name with
  | none => some (inner, [])
  | some (.table _ .implied entries) => some (inner.erase key.name, entries)
  | some _ => none

/-- The document with these entries in which the table of a header is open. -/
def open? (root : Entries) (header : Header) : Option Draft :=
  if header.ofArray then some ⟨root, some header, []⟩
  else do
    let (root, current) ←
      Entries.within? false (fun _ => reopen? header.key.last) header.key.path .header root
    some ⟨root, some header, current⟩

/-- Reads a line. A header closes the table that is open before its own key is read. -/
def read (d : Draft) : Line → Parsed Draft
  | .field key value => do
    let key ← KeyPath.ofWritten key
    let value ← value.value
    expect (d.define? key value)
  | .header ofArray span key => do
    let root ← expect d.close?
    let key ← KeyPath.ofWritten key
    expect (open? root ⟨key, ofArray, span⟩)

end Draft

/-- The document of a text, as a table without a place of its own. A text without a layout is
refused as a whole, before any of its words counts; otherwise the first error in the order of the
lines does. -/
def Document.parse (text : String) : Parsed Value := do
  let tokens ← expect (Token.scan? text.toList)
  let lines ← expect (Line.ofTokens? tokens)
  let d ← lines.foldlM Draft.read .empty
  let entries ← expect d.close?
  .ok (.table ⟨0, 0⟩ .header entries)

end GradleScript.Toml
