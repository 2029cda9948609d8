import GradleScript.Proofs.Schema.Parts
import GradleScript.Proofs.Schema.Record

/-!
# Writing what a schema reads

What a schema stands for can be written as a value again: a record as a table of its fields, in
their order, and an absent text by leaving its field out. The schema reads back what was written,
provided that the keys of tables with any keys are distinct.

## Main definitions

* `Schema.write?`, `Fields.write`: the value that is written, and the entries of a record
* `Schema.Recovers`, `Fields.Recovers`: what is read back from its written form

## Main results

* `Schema.recovers_names`, `Schema.recovers_list`, `Schema.recovers_map`: arrays and tables
* `Schema.recovers_record`: a record is read back if each of its fields is
-/

namespace GradleScript

open Toml

namespace Toml

/-- The place of a value that stands in no text. -/
def nowhere : Span := ⟨0, 0⟩

/-- A text as a value. -/
def Value.ofText (s : String) : Value := .scalar nowhere (.text s)

/-- An array of values in brackets. -/
def Value.ofItems (items : List Value) : Value := .array nowhere false items

/-- A table with a header. -/
def Value.ofEntries (entries : Entries) : Value := .table nowhere .header entries

/-- A key that stands in no text. -/
def Key.ofName (name : String) : Key := ⟨name, nowhere⟩

end Toml

mutual

/-- The value that is written for what a schema stands for; nothing if the place is left out. -/
def Schema.write? : (s : Schema) → s.Carrier → Option Value
  | .text _, t => some (.ofText t)
  | .optionalText, t => Option.map Value.ofText t
  | .path, t => some (.ofText t)
  | .flag, b => some (.scalar nowhere (.boolean b))
  | .level, n => some (.scalar nowhere (.integer (some (UInt32.toNat n))))
  | .names, ns => some (.ofItems ((NameSet.toList ns).map .ofText))
  | .list item, as => some (.ofItems (List.filterMap item.write? as))
  | .map item, as =>
    some (.ofEntries (List.filterMap (fun a => (item.write? a.2).map (Key.ofName a.1, ·)) as))
  | .record _ fields, values => some (.ofEntries (fields.write values))

/-- The entries that are written for the fields of a record. -/
def Fields.write : (fs : Fields) → fs.Carrier → Entries
  | .nil, _ => []
  | .cons name schema rest, (value, values) =>
    ((schema.write? value).map (Key.ofName name, ·)).toList ++ rest.write values

end

/-- What a place stands for is read back from what is written there, or left out. -/
structure Schema.Recovers (s : Schema) (c : s.Carrier) : Prop where
  distinct : ∀ v ∈ s.write? c, v.Distinct
  fill : s.fill? (s.write? c) = some c

/-- Each field is read back from what is written for it. -/
def Fields.Recovers : (fs : Fields) → fs.Carrier → Prop
  | .nil, _ => True
  | .cons _ schema rest, (value, values) => schema.Recovers value ∧ rest.Recovers values

namespace Schema

/-! ## Scalars -/

theorem recovers_text (default : Option String) (t : String) : (text default).Recovers t :=
  ⟨by rintro _ ⟨⟩; exact .scalar _ _, rfl⟩

theorem recovers_optionalText (t : Option String) : optionalText.Recovers t := by
  cases t with
  | none => exact ⟨by rintro _ ⟨⟩, rfl⟩
  | some t => exact ⟨by rintro _ ⟨⟩; exact .scalar _ _, rfl⟩

theorem recovers_path (t : String) : path.Recovers t :=
  ⟨by rintro _ ⟨⟩; exact .scalar _ _, rfl⟩

theorem recovers_flag (b : Bool) : flag.Recovers b :=
  ⟨by rintro _ ⟨⟩; exact .scalar _ _, rfl⟩

theorem readLevel_toNat (span : Span) (n : UInt32) :
    readLevel (.scalar span (.integer (some n.toNat))) = .ok n := by
  have range : 0 ≤ (n.toNat : Int) ∧ (n.toNat : Int) < UInt32.size :=
    ⟨Int.natCast_nonneg _, Int.ofNat_lt.2 n.toNat_lt_size⟩
  simp only [readLevel]
  rw [if_pos range, Int.toNat_natCast, UInt32.ofNat_toNat]

theorem recovers_level (n : UInt32) : level.Recovers n := by
  refine ⟨by rintro _ ⟨⟩; exact .scalar _ _, ?_⟩
  have read : (readLevel (.scalar nowhere (.integer (some n.toNat)))).toOption = some n := by
    rw [readLevel_toNat]
    rfl
  exact read

/-! ## Arrays and tables -/

theorem readItems_ofText (ts : List String) :
    readItems (readText "a string") (ts.map Value.ofText) = .ok ts := by
  induction ts with
  | nil => rfl
  | cons t rest ih => simp [readItems, readText, Value.ofText, ih, bind, Except.bind]

theorem recovers_names (ns : NameSet) : names.Recovers ns := by
  refine ⟨?_, ?_⟩
  · rintro _ ⟨⟩
    exact .array _ _ (List.forall_mem_map.2 fun _ _ => .scalar _ _)
  · have read : (readItems (readText "a string") (ns.toList.map Value.ofText)).map
        NameSet.ofList = .ok ns := by
      rw [readItems_ofText, Except.map, NameSet.ofList_toList]
    exact Except.toOption_eq_some_iff.2 read

/-- What is written for a place can be read there. -/
theorem Recovers.exists_decode {s : Schema} {c : s.Carrier} (h : s.Recovers c)
    (written : (s.write? c).isSome) :
    ∃ v, s.write? c = some v ∧ v.Distinct ∧ s.decode v = .ok c := by
  obtain ⟨v, hv⟩ := Option.isSome_iff_exists.1 written
  refine ⟨v, hv, h.distinct v hv, ?_⟩
  have fill := h.fill
  rw [hv] at fill
  exact Except.toOption_eq_some_iff.1 fill

theorem recovers_list {item : Schema} {as : List item.Carrier}
    (each : ∀ a ∈ as, item.Recovers a) (written : ∀ a ∈ as, (item.write? a).isSome) :
    (list item).Recovers as := by
  refine ⟨?_, ?_⟩
  · rintro _ ⟨⟩
    refine .array _ _ fun v hv => ?_
    obtain ⟨a, ha, e⟩ := List.mem_filterMap.1 hv
    exact (each a ha).distinct v e
  · have read : readItems item.decode (as.filterMap item.write?) = .ok as := by
      induction as with
      | nil => rfl
      | cons a rest ih =>
        rw [List.forall_mem_cons] at each written
        obtain ⟨v, hv, -, hd⟩ := each.1.exists_decode written.1
        rw [List.filterMap_cons_some hv, readItems, hd, ih each.2 written.2]
        rfl
    exact Except.toOption_eq_some_iff.2 read

/-- The keys that are written are keys of the entries, in their order. -/
theorem keys_write_sublist (item : Schema) (as : List (String × item.Carrier)) :
    ((as.filterMap fun a => (item.write? a.2).map (Key.ofName a.1, ·)).map (·.1.name)).Sublist
      (as.map (·.1)) := by
  induction as with
  | nil => exact .slnil
  | cons a rest ih =>
    rw [List.filterMap_cons]
    cases item.write? a.2 with
    | none => exact ih.cons _
    | some v => exact ih.cons_cons _

/-- Entries are read back. -/
theorem readEntries_write {item : Schema} {as : List (String × item.Carrier)}
    (each : ∀ a ∈ as, item.Recovers a.2) (written : ∀ a ∈ as, (item.write? a.2).isSome) :
    readEntries item.decode
      (as.filterMap fun a => (item.write? a.2).map (Key.ofName a.1, ·)) = .ok as := by
  induction as with
  | nil => rfl
  | cons a rest ih =>
    rw [List.forall_mem_cons] at each written
    obtain ⟨v, hv, -, hd⟩ := each.1.exists_decode written.1
    rw [List.filterMap_cons_some (by rw [hv]; rfl), readEntries, Key.ofName, hd,
      ih each.2 written.2]
    rfl

theorem recovers_map {item : Schema} {as : List (String × item.Carrier)}
    (nodup : (as.map (·.1)).Nodup) (each : ∀ a ∈ as, item.Recovers a.2)
    (written : ∀ a ∈ as, (item.write? a.2).isSome) : (map item).Recovers as := by
  refine ⟨?_, ?_⟩
  · rintro _ ⟨⟩
    refine .table _ _ ?_ fun e he => ?_
    · exact (keys_write_sublist item as).nodup nodup
    · obtain ⟨a, ha, e'⟩ := List.mem_filterMap.1 he
      obtain ⟨v, hv, rfl⟩ := Option.map_eq_some_iff.1 e'
      exact (each a ha).distinct v hv
  · have read := readEntries_write each written
    exact Except.toOption_eq_some_iff.2 read

end Schema

/-! ## Records -/

namespace Fields

/-- The keys that are written are names of fields, in their order. -/
theorem names_write_sublist :
    (fs : Fields) → (values : fs.Carrier) → ((fs.write values).map (·.1.name)).Sublist fs.names
  | .nil, _ => .slnil
  | .cons name schema rest, (value, values) => by
    have ih := names_write_sublist rest values
    rw [write, names]
    cases schema.write? value with
    | none => exact ih.cons name
    | some v => exact ih.cons_cons name

theorem Recovers.distinct_write :
    (fs : Fields) → {values : fs.Carrier} → fs.Recovers values →
      ∀ e ∈ fs.write values, e.2.Distinct
  | .nil, _, _ => by simp [write]
  | .cons name schema rest, (value, values), ⟨h, hs⟩ => by
    rw [write, List.forall_mem_append]
    refine ⟨?_, distinct_write rest hs⟩
    intro e he
    obtain ⟨v, hv, rfl⟩ := Option.map_eq_some_iff.1 (Option.mem_toList.1 he)
    exact h.distinct v hv

/-- The slots that the written entries give are filled with what was written. -/
theorem Recovers.fill_write :
    (fs : Fields) → {values : fs.Carrier} → fs.names.Nodup → fs.Recovers values →
      (fs.fill? fun i => fs.names[i]?.bind fun name => (fs.write values).get? name) = some values
  | .nil, _, _, _ => rfl
  | .cons name schema rest, (value, values), nodup, ⟨h, hs⟩ => by
    rw [names, List.nodup_cons] at nodup
    have ih := fill_write rest nodup.2 hs
    have absent : (rest.write values).get? name = none :=
      Entries.get?_eq_none_iff.2 fun hm => nodup.1 ((names_write_sublist rest values).subset hm)
    have first :
        ((cons name schema rest).write (value, values)).get? name = schema.write? value := by
      rw [write]
      cases schema.write? value with
      | none => exact absent
      | some v => simp [Entries.get?_cons, Key.ofName]
    have others : ∀ n ∈ rest.names,
        ((cons name schema rest).write (value, values)).get? n = (rest.write values).get? n := by
      intro n hn
      have ne : name ≠ n := fun e => nodup.1 (e ▸ hn)
      rw [write]
      cases schema.write? value with
      | none => rfl
      | some v => simp [Entries.get?_cons, Key.ofName, ne]
    have slots : (fun i : Nat => rest.names[i]?.bind fun n =>
        ((cons name schema rest).write (value, values)).get? n) =
          fun i => rest.names[i]?.bind fun n => (rest.write values).get? n := by
      funext i
      cases hn : rest.names[i]? with
      | none => rfl
      | some n => exact others n (List.mem_of_getElem? hn)
    refine fill?_cons_eq_some_iff.2 ⟨?_, ?_⟩
    · exact (congrArg schema.fill? first).trans h.fill
    · exact (congrArg rest.fill? slots).trans ih

end Fields

/-- **A record is read back if each of its fields is.** -/
theorem Schema.recovers_record {name : String} {fields : Fields} {values : fields.Carrier}
    (named : fields.WellNamed) (h : fields.Recovers values) :
    (record name fields).Recovers values := by
  have sublist := fields.names_write_sublist values
  have distinct : (Value.ofEntries (fields.write values)).Distinct :=
    .table _ _ (sublist.nodup named.nodup) h.distinct_write
  have known : ∀ e ∈ fields.write values, e.1.name ∈ fields.names :=
    fun e he => sublist.subset (List.mem_map_of_mem he)
  refine ⟨?_, ?_⟩
  · rintro _ ⟨⟩
    exact distinct
  · have slots : (Value.ofEntries (fields.write values)).slots? fields.names =
        some fun i => fields.names[i]?.bind fun name => (fields.write values).get? name :=
      if_pos known
    have read : ((record name fields).decode (.ofEntries (fields.write values))).toOption = _ :=
      toOption_decode_record named distinct
    rw [slots, Option.bind_some, h.fill_write _ named.nodup] at read
    exact read

/-- Records in an array are read back if each field of each of them is. -/
theorem Schema.recovers_list_record {α : Type} {name : String} {fields : Fields}
    (named : fields.WellNamed) (toCarrier : α → fields.Carrier)
    (each : ∀ a, fields.Recovers (toCarrier a)) (as : List α) :
    (list (record name fields)).Recovers (as.map toCarrier) :=
  recovers_list (List.forall_mem_map.2 fun a _ => recovers_record named (each a))
    (List.forall_mem_map.2 fun _ _ => rfl)

end GradleScript
