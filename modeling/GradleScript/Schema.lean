import GradleScript.NameSet
import GradleScript.Schema.Mismatch

/-!
# Schemas

A schema says which values may stand at a place of a document and what they stand for. A record
may be written as a table of its fields or as an array of them in their order; fields with a
default may be left out, in an array from the end.

A document is read depth first in its own order, and the first mismatch counts. That a field is
missing shows only after all the keys of a table have been read.

## Main definitions

* `Schema`, `Fields`: the schemas of values and of the fields of a record
* `Schema.Carrier`: what the values of a schema stand for
* `Schema.decode`: reads a value under a schema
-/

namespace GradleScript

open Toml

mutual

/-- The form of the values at one place of a document. -/
inductive Schema where
  /-- A text, with a default if it may be left out. -/
  | text (default : Option String)
  /-- A text or none; it may be left out. -/
  | optionalText
  /-- A path. -/
  | path
  /-- A truth value, false if it is left out. -/
  | flag
  /-- A whole number of 32 bits without a sign. -/
  | level
  /-- An array of texts of which only the first mention of each counts. -/
  | names
  /-- An array of values of one form. -/
  | list (item : Schema)
  /-- A table with any keys and values of one form. -/
  | map (item : Schema)
  /-- A table of fields, or an array of them. -/
  | record (name : String) (fields : Fields)

/-- The fields of a record, in order. -/
inductive Fields where
  | nil
  | cons (name : String) (schema : Schema) (rest : Fields)

end

mutual

/-- What the values of a schema stand for. -/
def Schema.Carrier : Schema → Type
  | .text _ => String
  | .optionalText => Option String
  | .path => String
  | .flag => Bool
  | .level => UInt32
  | .names => NameSet
  | .list item => List item.Carrier
  | .map item => List (String × item.Carrier)
  | .record _ fields => fields.Carrier

/-- A value for each field. -/
def Fields.Carrier : Fields → Type
  | .nil => Unit
  | .cons _ schema rest => schema.Carrier × rest.Carrier

end

/-- What a place stands for when nothing is written there, if that is allowed. -/
def Schema.default? : (s : Schema) → Option s.Carrier
  | .text default => default
  | .optionalText => some (none : Option String)
  | .path => none
  | .flag => some false
  | .level => none
  | .names => some (∅ : NameSet)
  | .list item => some ([] : List item.Carrier)
  | .map item => some ([] : List (String × item.Carrier))
  | .record _ _ => none

namespace Fields

/-- The names of the fields. -/
def names : Fields → List String
  | .nil => []
  | .cons name _ rest => name :: rest.names

/-- A value for some of the fields. -/
def Partial : Fields → Type
  | .nil => Unit
  | .cons _ schema rest => Option schema.Carrier × rest.Partial

/-- A value for no field. -/
def noneRead : (fs : Fields) → fs.Partial
  | .nil => ()
  | .cons _ _ rest => (none, rest.noneRead)

/-- Fills the fields that were not read with their defaults; fails with the name of the first
field that has none. -/
def complete : (fs : Fields) → fs.Partial → Except String fs.Carrier
  | .nil, _ => .ok ()
  | .cons name schema rest, (value, others) =>
    match value.or schema.default? with
    | none => .error name
    | some value => do
      let values ← rest.complete others
      .ok (value, values)

end Fields

/-- The name under which a date or time shows its text when it is taken for a table. -/
def dateTimeKey : String := "$__toml_private_datetime"

/-- The entries of a value that is a table, or that can be taken for one: a date or time is a
table of one reserved key with its text. -/
def Toml.Value.asTable? : Value → Option (Span × Entries)
  | .table span _ entries => some (span, entries)
  | .scalar span (.dateTime d) =>
    some (span, [(⟨dateTimeKey, span⟩, .scalar span (.text d.text))])
  | _ => none

/-- Reads a text. -/
def readText (wanted : String) : Value → Except Mismatch String
  | .scalar _ (.text s) => .ok s
  | v => .error (v.unwanted wanted)

/-- Reads a truth value. -/
def readFlag : Value → Except Mismatch Bool
  | .scalar _ (.boolean b) => .ok b
  | v => .error (v.unwanted "a boolean")

/-- Reads a whole number of 32 bits without a sign. A number that fits in 64 bits is out of range,
a larger one is of another kind. -/
def readLevel : Value → Except Mismatch UInt32
  | .scalar span (.integer (some n)) =>
    if 0 ≤ n ∧ n < UInt32.size then .ok (UInt32.ofNat n.toNat)
    else if fits64 n then .error ⟨.outOfRange n "u32", span⟩
    else .error (Value.unwanted "u32" (.scalar span (.integer (some n))))
  | v => .error (v.unwanted "u32")

/-- Reads the items of an array, in order. -/
def readItems {α : Type} (read : Value → Except Mismatch α) : List Value →
    Except Mismatch (List α)
  | [] => .ok []
  | v :: rest => do
    let a ← read v
    let as ← readItems read rest
    .ok (a :: as)

/-- Reads the entries of a table with any keys, in order. The keys of a table in a document are
distinct, and so nothing is said about keys that come twice. -/
def readEntries {α : Type} (read : Value → Except Mismatch α) :
    Entries → Except Mismatch (List (String × α))
  | [] => .ok []
  | (key, v) :: rest => do
    let a ← read v
    let as ← readEntries read rest
    .ok ((key.name, a) :: as)

/-- Reads the entries of a table with known keys into an unfinished record, in order. -/
def readFields {α : Type} (put : Key → Value → α → Except Mismatch α) (record : α) :
    Entries → Except Mismatch α
  | [] => .ok record
  | (key, v) :: rest => do
    let record ← put key v record
    readFields put record rest

mutual

/-- Reads a value under a schema. -/
def Schema.decode : (s : Schema) → Value → Except Mismatch s.Carrier
  | .text _, v => readText "a string" v
  | .optionalText, v => (readText "a string" v).map some
  | .path, v => readText "path string" v
  | .flag, v => readFlag v
  | .level, v => readLevel v
  | .names, v =>
    match v with
    | .array _ _ items => (readItems (readText "a string") items).map NameSet.ofList
    | v => .error (v.unwanted "a set")
  | .list item, v =>
    match v with
    | .array _ _ items => readItems item.decode items
    | v => .error (v.unwanted "a sequence")
  | .map item, v =>
    match v.asTable? with
    | some (_, entries) => readEntries item.decode entries
    | none => .error (v.unwanted "a map")
  | .record name fields, v =>
    match v.asTable?, v with
    | some (span, entries), _ => do
      let record ← readFields (fields.put fields.names) fields.noneRead entries
      match fields.complete record with
      | .ok values => .ok values
      | .error field => .error ⟨.missingField field, span⟩
    | none, .array span _ items =>
      fields.decodeItems (fun n => ⟨.wrongLength n name fields.names.length, span⟩) 0 items
    | none, v => .error (v.unwanted ("struct " ++ name))

/-- Reads the value of a key into an unfinished record; `known` are the keys that a message
lists. -/
def Fields.put (known : List String) : (fs : Fields) → Key → Value → fs.Partial →
    Except Mismatch fs.Partial
  | .nil, key, _, _ => .error ⟨.unknownField key.name known, key.span⟩
  | .cons name schema rest, key, v, (value, others) =>
    if key.name = name then
      if value.isSome then .error ⟨.repeatedField name, key.span⟩
      else do
        let value ← schema.decode v
        .ok (some value, others)
    else do
      let others ← rest.put known key v others
      .ok (value, others)

/-- Reads the fields of a record from the items of an array, `index` of which have been read.
Items after the last field are not read; when the items end too early, `short` says so with the
index of the first field that is required. -/
def Fields.decodeItems (short : Nat → Mismatch) (index : Nat) : (fs : Fields) → List Value →
    Except Mismatch fs.Carrier
  | .nil, _ => .ok ()
  | .cons _ schema rest, [] =>
    match schema.default? with
    | none => .error (short index)
    | some value => do
      let values ← rest.decodeItems short (index + 1) []
      .ok (value, values)
  | .cons _ schema rest, v :: items => do
    let value ← schema.decode v
    let values ← rest.decodeItems short (index + 1) items
    .ok (value, values)

end

end GradleScript
