import GradleScript.Proofs.Schema.Arrangement

/-!
# Records without keys

A record can be written as a table, whose keys say which value is for which field, or as an array,
where the order of the values says it. The array has to have something at the place of a field that
is left out, unless nothing follows: its default, if that can be written.

## Main definitions

* `Fields.Lists`: the items that give the fields of a table in order
* `Schema.ListsFields`: a table of fields, and an array of them

## Main results

* `Fields.Lists.fill?_eq`: an item stands for what the field of the table stands for
* `Schema.ListsFields.readsAlike`: the table and the array are read alike
-/

namespace GradleScript

open Toml

/-- The items are the values that a table gives to these fields, in order. For a field that is left
out there is its default, or the items end if all later fields are left out as well. -/
inductive Fields.Lists (entries : Entries) : Fields → List Value → Prop where
  | cutOff {fields : Fields} (absent : ∀ name ∈ fields.names, entries.get? name = none) :
    Lists entries fields []
  | given {name : String} {schema : Schema} {rest : Fields} {value : Value} {items : List Value}
    (present : entries.get? name = some value) (others : Lists entries rest items) :
    Lists entries (.cons name schema rest) (value :: items)
  | default {name : String} {schema : Schema} {rest : Fields} {value : Value} {items : List Value}
    (absent : entries.get? name = none) (written : schema.written? = some value)
    (others : Lists entries rest items) : Lists entries (.cons name schema rest) (value :: items)

namespace Fields.Lists

variable {entries : Entries} {fields : Fields} {items : List Value}

/-- The items have distinct keys, as the values of the table have. -/
theorem distinct (h : fields.Lists entries items) (distinct : entries.Distinct) :
    ∀ v ∈ items, v.Distinct := by
  induction h with
  | cutOff absent => simp
  | given present _ ih => exact List.forall_mem_cons.2 ⟨distinct.of_get? present, ih⟩
  | default absent written _ ih =>
    exact List.forall_mem_cons.2 ⟨(Schema.distinct_and_fill?_of_written? written).1, ih⟩

/-- **An item stands for what the field of the table stands for.** -/
theorem fill?_eq (h : fields.Lists entries items) {i : Nat} {f : String × Schema}
    (hf : fields.toList[i]? = some f) : f.2.fill? items[i]? = f.2.fill? (entries.get? f.1) := by
  induction h generalizing i with
  | @cutOff fields absent =>
    have known : f.1 ∈ fields.names := by
      rw [fields.names_eq_map_toList]
      exact List.mem_map_of_mem (List.mem_of_getElem? hf)
    rw [List.getElem?_nil, absent _ known]
  | given present _ ih =>
    cases i with
    | zero =>
      cases hf
      rw [List.getElem?_cons_zero, present]
    | succ i => exact ih hf
  | default absent written _ ih =>
    cases i with
    | zero =>
      cases hf
      rw [List.getElem?_cons_zero, absent]
      exact (Schema.distinct_and_fill?_of_written? written).2
    | succ i => exact ih hf

end Fields.Lists

namespace Schema

/-- A record as a table, without any key but those of its fields, and as an array. -/
inductive ListsFields : Schema → Value → Value → Prop where
  | intro {name : String} {fields : Fields} {span span' : Span} {origin : Origin} {ofTables : Bool}
    {entries : Entries} {items : List Value} (known : ∀ e ∈ entries, e.1.name ∈ fields.names)
    (lists : fields.Lists entries items) :
    ListsFields (.record name fields) (.table span origin entries) (.array span' ofTables items)

variable {s : Schema} {v v' : Value}

theorem ListsFields.distinct (h : s.ListsFields v v') (distinct : v.Distinct) : v'.Distinct := by
  cases h with
  | intro known lists => exact .array _ _ (lists.distinct distinct.entries)

/-- **A table and an array of the same fields are read alike.** -/
theorem ListsFields.readsAlike (h : s.ListsFields v v') (named : s.WellNamed)
    (distinct : v.Distinct) : s.ReadsAlike v v' := by
  have distinct' := h.distinct distinct
  cases h with
  | @intro name fields span span' origin ofTables entries items known lists =>
    rw [ReadsAlike, toOption_decode_record named.1 distinct,
      toOption_decode_record named.1 distinct', Value.slots?, Value.slots?, if_pos known,
      Option.bind_some, Option.bind_some]
    refine fields.fill?_congr fun i f hf => ?_
    have index : fields.names[i]? = some f.1 := by
      rw [fields.names_eq_map_toList, List.getElem?_map, hf]
      rfl
    rw [index, Option.bind_some]
    exact (lists.fill?_eq hf).symm

end Schema

end GradleScript
