import GradleScript.Proofs.Toml.DistinctKeys
import GradleScript.Schema

/-!
# Reading a record

A record is read from a table or from an array. Either way there is one slot for each field, with
the value that stands for the field or with nothing, and what the record stands for depends on
the slots alone: not on the order of the keys, and not on which of the two it was.

## Main definitions

* `Value.slots?`: the slots of a table or an array
* `Schema.fill?`, `Fields.fill?`: what a slot and the slots of a record stand for
* `Fields.WellNamed`: the fields can be told apart
* `Fields.read?`: what an unfinished record holds once some keys have been read

## Main results

* `Fields.toOption_put`: reading one more key
* `Fields.toOption_readFields`: reading the keys of a table
* `Schema.toOption_decode_record`: reading a record is filling its slots
-/

namespace GradleScript

open Toml

/-- The slots of some fields: the values of the keys of a table, unless one of them is no field, or
the items of an array. There is nothing in the slots after the last one. -/
def Toml.Value.slots? (names : List String) : Value → Option (Nat → Option Value)
  | .scalar .. => none
  | .array _ _ items => some fun i => items[i]?
  | .table _ _ entries =>
    if ∀ e ∈ entries, e.1.name ∈ names then
      some fun i => names[i]?.bind fun name => Entries.get? name entries
    else none

/-- What stands in a slot has distinct keys if the table or the array has. -/
theorem Toml.Value.Distinct.slots {v : Value} (distinct : v.Distinct) {names : List String}
    {slots : Nat → Option Value} (h : v.slots? names = some slots) (i : Nat) :
    ∀ w ∈ slots i, w.Distinct := by
  intro w hw
  cases v with
  | scalar span value => simp [Value.slots?] at h
  | array span ofTables items =>
    cases h
    exact distinct.items w (List.mem_of_getElem? hw)
  | table span origin entries =>
    rw [Value.slots?] at h
    split at h
    · cases h
      obtain ⟨name, -, hg⟩ := Option.bind_eq_some_iff.1 hw
      exact distinct.entries.of_get? hg
    · simp at h

/-- A value that can be taken for a table has distinct keys if all its tables have. -/
theorem Toml.Value.Distinct.nodup_of_asTable? {v : Value} (distinct : v.Distinct) {span : Span}
    {entries : Entries} (h : v.asTable? = some (span, entries)) :
    (entries.map (·.1.name)).Nodup := by
  cases v with
  | scalar span' value =>
    cases value with
    | dateTime d =>
      cases h
      exact List.pairwise_singleton _ _
    | _ => cases h
  | array span' ofTables items => cases h
  | table span' origin entries' =>
    cases h
    exact distinct.entries.nodup

/-- What a slot stands for. Nothing stands for the default. -/
def Schema.fill? (s : Schema) : Option Value → Option s.Carrier
  | none => s.default?
  | some v => (s.decode v).toOption

/-- What has been read for a slot. Nothing is read for nothing. -/
def Schema.read? (s : Schema) : Option Value → Option (Option s.Carrier)
  | none => some none
  | some v => (s.decode v).toOption.map some

namespace Fields

/-- What the slots of a record stand for. Slots after the last field do not count. -/
def fill? : (fs : Fields) → (Nat → Option Value) → Option fs.Carrier
  | .nil, _ => some ()
  | .cons _ schema rest, slots => do
    let value ← schema.fill? (slots 0)
    let values ← rest.fill? fun i => slots (i + 1)
    some (value, values)

theorem fill?_cons_eq_some_iff {name : String} {schema : Schema} {rest : Fields}
    {slots : Nat → Option Value} {value : schema.Carrier} {values : rest.Carrier} :
    (cons name schema rest).fill? slots = some (value, values) ↔
      schema.fill? (slots 0) = some value ∧ (rest.fill? fun i => slots (i + 1)) = some values := by
  rw [fill?]
  cases schema.fill? (slots 0) with
  | none => simp
  | some v =>
    cases rest.fill? fun i => slots (i + 1) with
    | none => simp
    | some vs =>
      constructor
      · intro h
        obtain ⟨rfl, rfl⟩ := Prod.mk.inj (Option.some.inj h)
        exact ⟨rfl, rfl⟩
      · rintro ⟨⟨⟩, ⟨⟩⟩
        rfl

/-! ## Arrays -/

/-- The items of an array fill the slots in order. -/
theorem toOption_decodeItems (short : Nat → Mismatch) (index : Nat) :
    (fs : Fields) → (items : List Value) →
      (fs.decodeItems short index items).toOption = fs.fill? fun i => items[i]?
  | .nil, _ => rfl
  | .cons name schema rest, [] => by
    have ih : (rest.decodeItems short (index + 1) []).toOption = rest.fill? fun _ => none :=
      toOption_decodeItems short (index + 1) rest []
    rw [decodeItems, fill?]
    simp only [List.getElem?_nil, Schema.fill?]
    cases schema.default? with
    | none => rfl
    | some value =>
      simp only [Except.toOption_bind, ih]
      rfl
  | .cons name schema rest, v :: items => by
    rw [decodeItems, fill?]
    simp only [List.getElem?_cons_zero, List.getElem?_cons_succ, Schema.fill?,
      Except.toOption_bind, toOption_decodeItems short (index + 1) rest items]
    rfl

/-! ## Tables -/

/-- The fields have distinct names, and none of them has the reserved one. -/
structure WellNamed (fs : Fields) : Prop where
  nodup : fs.names.Nodup
  not_reserved : dateTimeKey ∉ fs.names

instance (fs : Fields) : Decidable fs.WellNamed :=
  decidable_of_iff (fs.names.Nodup ∧ dateTimeKey ∉ fs.names)
    ⟨fun h => ⟨h.1, h.2⟩, fun h => ⟨h.nodup, h.not_reserved⟩⟩

/-- What an unfinished record holds once the keys of some entries have been read. -/
def read? : (fs : Fields) → Entries → Option fs.Partial
  | .nil, _ => some ()
  | .cons name schema rest, entries => do
    let value ← schema.read? (entries.get? name)
    let others ← rest.read? entries
    some (value, others)

theorem read?_nil : (fs : Fields) → fs.read? [] = some fs.noneRead
  | .nil => rfl
  | .cons name schema rest => by
    rw [read?, read?_nil rest]
    rfl

theorem of_read?_cons {name : String} {schema : Schema} {rest : Fields} {entries : Entries}
    {value : Option schema.Carrier} {others : rest.Partial}
    (h : (cons name schema rest).read? entries = some (value, others)) :
    schema.read? (entries.get? name) = some value ∧ rest.read? entries = some others := by
  obtain ⟨value', hv, h⟩ := Option.bind_eq_some_iff.1 h
  obtain ⟨others', ho, h⟩ := Option.bind_eq_some_iff.1 h
  obtain ⟨rfl, rfl⟩ := Prod.mk.inj (Option.some.inj h)
  exact ⟨hv, ho⟩

/-- Fields only see the entries with their names. -/
theorem read?_congr {es es' : Entries} :
    (fs : Fields) → (∀ name ∈ fs.names, es.get? name = es'.get? name) → fs.read? es = fs.read? es'
  | .nil, _ => rfl
  | .cons name schema rest, h => by
    have ih := read?_congr rest fun n hn => h n (List.mem_cons_of_mem _ hn)
    rw [read?, read?, h name List.mem_cons_self, ih]

/-- Reading one more key reads its value into the field of that name, if there is one. -/
theorem toOption_put (known : List String) {es : Entries} {key : Key} (v : Value)
    (new : es.get? key.name = none) :
    (fs : Fields) → {record : fs.Partial} → fs.names.Nodup → fs.read? es = some record →
      (fs.put known key v record).toOption =
        if key.name ∈ fs.names then fs.read? (es.add key v) else none
  | .nil, _, _, _ => by
    rw [put, if_neg (by simp [names])]
    rfl
  | .cons name schema rest, (value, others), nodup, e => by
    rw [names, List.nodup_cons] at nodup
    obtain ⟨hv, ho⟩ := of_read?_cons e
    rw [put, names, read?, Entries.get?_add]
    by_cases hk : key.name = name
    · -- the key is the first field's; no entry before had it, so that nothing is read twice
      subst hk
      rw [new, Schema.read?, Option.some.injEq] at hv
      subst hv
      have same : rest.read? (es.add key v) = rest.read? es := by
        refine read?_congr rest fun n hn => ?_
        have ne : key.name ≠ n := fun h => nodup.1 (h ▸ hn)
        rw [Entries.get?_add, if_neg ne, Option.or_none]
      rw [if_pos rfl, if_pos rfl, if_pos List.mem_cons_self, new, Option.none_or, same, ho]
      simp only [Option.isSome_none, Bool.false_eq_true, if_false, Schema.read?]
      cases schema.decode v <;> rfl
    · have ih := toOption_put known v new rest nodup.2 ho
      rw [if_neg hk, if_neg hk, Option.or_none, Except.toOption_bind, ih, hv]
      simp only [List.mem_cons, hk, false_or]
      split <;> rfl

/-- What can be read with more keys can be read without them. -/
theorem exists_of_read?_append {es : Entries} (more : Entries) :
    (fs : Fields) → {record : fs.Partial} → fs.read? (es ++ more) = some record →
      ∃ before, fs.read? es = some before
  | .nil, _, _ => ⟨(), rfl⟩
  | .cons name schema rest, (value, others), e => by
    obtain ⟨hv, ho⟩ := of_read?_cons e
    obtain ⟨others', ho'⟩ := exists_of_read?_append more rest ho
    have first : (es ++ more).get? name = (es.get? name).or (more.get? name) := by
      simp [Entries.get?, List.find?_append, Option.map_or]
    rw [first] at hv
    cases hg : es.get? name with
    | none =>
      exact ⟨(none, others'), by simp [read?, hg, ho', Schema.read?]⟩
    | some v =>
      rw [hg, Option.some_or] at hv
      exact ⟨(value, others'), by simp [read?, hg, ho', hv]⟩

/-- Reading the keys of a table, when the keys of other entries have been read before. -/
theorem toOption_readFields (known : List String) (fs : Fields) (hn : fs.names.Nodup)
    (entries : Entries) {es : Entries} {record : fs.Partial}
    (distinct : ((es ++ entries).map (·.1.name)).Nodup) (e : fs.read? es = some record) :
    (readFields (fs.put known) record entries).toOption =
      if ∀ e ∈ entries, e.1.name ∈ fs.names then fs.read? (es ++ entries) else none := by
  induction entries generalizing es record with
  | nil => simp [readFields, ← e, Except.toOption]
  | cons entry rest ih =>
    obtain ⟨key, v⟩ := entry
    have new : es.get? key.name = none := by
      rw [Entries.get?_eq_none_iff]
      rw [List.map_append, List.nodup_append] at distinct
      exact fun h => distinct.2.2 _ h _ List.mem_cons_self rfl
    have append : es ++ (key, v) :: rest = es.add key v ++ rest := by simp [Entries.add]
    rw [readFields, Except.toOption_bind, toOption_put known v new fs hn e]
    simp only [List.forall_mem_cons, append]
    by_cases hk : key.name ∈ fs.names
    · rw [if_pos hk]
      cases hr : fs.read? (es.add key v) with
      | none =>
        have none_read : fs.read? (es.add key v ++ rest) = none := by
          rw [Option.eq_none_iff_forall_ne_some]
          intro record h
          obtain ⟨before, hb⟩ := exists_of_read?_append rest fs h
          simp [hr] at hb
        simp [none_read]
      | some next =>
        rw [append] at distinct
        rw [Option.bind_some, ih distinct hr]
        by_cases hr : ∀ e ∈ rest, e.1.name ∈ fs.names
        · rw [if_pos hr, if_pos ⟨hk, hr⟩]
        · rw [if_neg hr, if_neg fun h => hr h.2]
    · rw [if_neg hk, if_neg fun h => hk h.1]
      rfl

theorem toOption_complete_cons {name : String} {schema : Schema} {rest : Fields}
    (value : Option schema.Carrier) (others : rest.Partial) :
    ((cons name schema rest).complete (value, others)).toOption =
      (value.or schema.default?).bind fun value =>
        (rest.complete others).toOption.bind fun values => some (value, values) := by
  rw [complete]
  cases value.or schema.default? with
  | none => rfl
  | some value => exact Except.toOption_bind _ _

/-- When all keys have been read, the slots are filled. -/
theorem bind_complete_read? (es : Entries) :
    (fs : Fields) → ((fs.read? es).bind fun record => (fs.complete record).toOption) =
      fs.fill? fun i => fs.names[i]?.bind fun name => es.get? name
  | .nil => rfl
  | .cons name schema rest => by
    have ih := bind_complete_read? es rest
    rw [read?, fill?, names]
    simp only [List.getElem?_cons_zero, List.getElem?_cons_succ, Option.bind_some, ← ih]
    -- the other fields are read before this one's default is asked for, with the same outcome
    cases rest.read? es with
    | none => cases schema.read? (es.get? name) <;> cases schema.fill? (es.get? name) <;> rfl
    | some others =>
      cases es.get? name with
      | none => exact toOption_complete_cons none others
      | some v =>
        rw [Schema.read?, Schema.fill?]
        cases schema.decode v with
        | error e => rfl
        | ok value => exact toOption_complete_cons (some value) others

end Fields

namespace Schema

variable {name : String} {fields : Fields}

/-- A record is read from anything that can be taken for a table in the same way. -/
theorem toOption_decode_record_of_asTable? (hn : fields.names.Nodup) {v : Value} {span : Span}
    {entries : Entries} (h : v.asTable? = some (span, entries))
    (distinct : (entries.map (·.1.name)).Nodup) :
    ((record name fields).decode v).toOption =
      if ∀ e ∈ entries, e.1.name ∈ fields.names then
        fields.fill? fun i => fields.names[i]?.bind fun name => entries.get? name
      else none := by
  have read := Fields.toOption_readFields fields.names fields hn entries
    (by rwa [List.nil_append]) (Fields.read?_nil fields)
  rw [List.nil_append] at read
  unfold decode
  simp only [h, Except.toOption_bind, read]
  rw [← Fields.bind_complete_read? entries fields]
  split
  · congr 1
    funext record
    cases fields.complete record <;> rfl
  · rfl

theorem toOption_decode_record_scalar {span : Span} {value : Scalar}
    (h : (Value.scalar span value).asTable? = none) :
    ((record name fields).decode (.scalar span value)).toOption = none := by
  unfold decode
  simp only [h, Except.toOption]

/-- **Reading a record is filling its slots.** -/
theorem toOption_decode_record (named : fields.WellNamed) {v : Value} (distinct : v.Distinct) :
    ((record name fields).decode v).toOption = (v.slots? fields.names).bind fields.fill? := by
  cases v with
  | scalar span value =>
    cases value with
    | dateTime d =>
      -- a date or time is taken for a table, but its key is no field
      rw [toOption_decode_record_of_asTable? named.nodup rfl (by simp)]
      exact if_neg fun known => named.not_reserved (known _ List.mem_cons_self)
    | _ => exact toOption_decode_record_scalar rfl
  | array span ofTables items => exact Fields.toOption_decodeItems _ 0 fields items
  | table span origin entries =>
    rw [toOption_decode_record_of_asTable? named.nodup rfl distinct.entries.nodup, Value.slots?]
    split <;> rfl

/-- A record that is read is what its slots stand for. -/
theorem exists_slots_of_decode_record (named : fields.WellNamed) {v : Value}
    (distinct : v.Distinct) {values : fields.Carrier}
    (h : (record name fields).decode v = .ok values) :
    ∃ slots, v.slots? fields.names = some slots ∧ fields.fill? slots = some values := by
  have filled : (v.slots? fields.names).bind fields.fill? = some values := by
    rw [← toOption_decode_record named distinct, h]
    rfl
  exact Option.bind_eq_some_iff.1 filled

/-- So is a record that stands in a slot. -/
theorem exists_slots_of_fill?_record (named : fields.WellNamed) {slot : Option Value}
    (distinct : ∀ v ∈ slot, v.Distinct) {values : fields.Carrier}
    (h : (record name fields).fill? slot = some values) :
    ∃ v slots, slot = some v ∧ v.slots? fields.names = some slots ∧
      fields.fill? slots = some values := by
  cases slot with
  | none => exact absurd h (by simp [fill?, default?])
  | some v =>
    obtain ⟨slots, hs, filled⟩ := exists_slots_of_decode_record named (distinct v rfl)
      (Except.toOption_eq_some_iff.1 h)
    exact ⟨v, slots, rfl, hs, filled⟩

end Schema

end GradleScript
