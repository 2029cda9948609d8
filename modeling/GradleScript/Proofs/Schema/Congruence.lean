import GradleScript.Proofs.Schema.Record
import Mathlib.Data.List.Forall2
import Mathlib.Data.List.Nodup

/-!
# Values that are read alike

What is read from an array, from a table with any keys or from a record depends on what is read from
its parts. So a part may be exchanged for one that is read alike, and of a record only what stands
for each of its fields counts.

## Main definitions

* `Fields.toList`: the fields of a record with their schemas
* `Schema.WellNamed`: the fields of every record in the schema can be told apart
* `Schema.ReadsAlike`: two values stand for the same, or neither for anything

## Main results

* `Schema.readsAlike_list`, `Schema.readsAlike_map`: arrays and tables with parts that are read
  alike
* `Schema.readsAlike_record_table`, `Schema.readsAlike_record_array`: records with such fields
-/

namespace GradleScript

open Toml

/-! ## Fields -/

/-- The fields with their schemas, in order. -/
def Fields.toList : Fields → List (String × Schema)
  | .nil => []
  | .cons name schema rest => (name, schema) :: rest.toList

theorem Fields.names_eq_map_toList : (fs : Fields) → fs.names = fs.toList.map (·.1)
  | .nil => rfl
  | .cons name schema rest => by rw [names, toList, List.map_cons, names_eq_map_toList rest]

mutual

/-- The fields of every record in the schema can be told apart. -/
def Schema.WellNamed : Schema → Prop
  | .list item => item.WellNamed
  | .map item => item.WellNamed
  | .record _ fields => fields.WellNamed ∧ fields.EachWellNamed
  | _ => True

/-- The schemas of all fields are well named. -/
def Fields.EachWellNamed : Fields → Prop
  | .nil => True
  | .cons _ schema rest => schema.WellNamed ∧ rest.EachWellNamed

end

theorem Fields.EachWellNamed.of_mem :
    {fs : Fields} → fs.EachWellNamed → ∀ f ∈ fs.toList, f.2.WellNamed
  | .nil, _ => by simp [toList]
  | .cons name schema rest, ⟨first, others⟩ => by
    rw [toList, List.forall_mem_cons]
    exact ⟨first, others.of_mem⟩

/-- A field is determined by its name. -/
theorem Fields.WellNamed.eq_of_name_eq {fs : Fields} (named : fs.WellNamed)
    {f g : String × Schema} (hf : f ∈ fs.toList) (hg : g ∈ fs.toList) (h : f.1 = g.1) : f = g := by
  have nodup : (fs.toList.map (·.1)).Nodup := fs.names_eq_map_toList ▸ named.nodup
  exact List.inj_on_of_nodup_map nodup hf hg h

/-- Slots that are filled alike fill a record alike. -/
theorem Fields.fill?_congr {slots slots' : Nat → Option Value} :
    (fs : Fields) →
      (∀ (i : Nat) f, fs.toList[i]? = some f → f.2.fill? (slots i) = f.2.fill? (slots' i)) →
        fs.fill? slots = fs.fill? slots'
  | .nil, _ => rfl
  | .cons name schema rest, h => by
    have first : schema.fill? (slots 0) = schema.fill? (slots' 0) := h 0 (name, schema) rfl
    have others : (rest.fill? fun i => slots (i + 1)) = rest.fill? fun i => slots' (i + 1) :=
      fill?_congr rest fun i f hf => h (i + 1) f hf
    rw [fill?, fill?, first, others]

/-! ## Parts -/

theorem toOption_readItems_congr {α : Type} {read : Value → Except Mismatch α}
    {items items' : List Value}
    (h : List.Forall₂ (fun v v' => (read v).toOption = (read v').toOption) items items') :
    (readItems read items).toOption = (readItems read items').toOption := by
  induction h with
  | nil => rfl
  | cons first _ ih =>
    simp only [readItems, Except.toOption_bind, first, ih]

/-- Of a key, only its name counts. -/
theorem toOption_readEntries_congr {α : Type} {read : Value → Except Mismatch α}
    {entries entries' : Entries}
    (h : List.Forall₂ (fun e e' => e.1.name = e'.1.name ∧
      (read e.2).toOption = (read e'.2).toOption) entries entries') :
    (readEntries read entries).toOption = (readEntries read entries').toOption := by
  induction h with
  | nil => rfl
  | @cons e e' _ _ first _ ih =>
    obtain ⟨key, v⟩ := e
    obtain ⟨key', v'⟩ := e'
    obtain ⟨name, same⟩ := first
    change key.name = key'.name at name
    rw [readEntries, readEntries, ← name]
    simp only [Except.toOption_bind, same, ih]

namespace Schema

/-- The values stand for the same, or neither of them stands for anything. -/
def ReadsAlike (s : Schema) (v v' : Value) : Prop :=
  (s.decode v).toOption = (s.decode v').toOption

theorem readsAlike_list {item : Schema} {items items' : List Value} (span span' : Span)
    (ofTables ofTables' : Bool) (h : List.Forall₂ item.ReadsAlike items items') :
    (list item).ReadsAlike (.array span ofTables items) (.array span' ofTables' items') :=
  toOption_readItems_congr h

theorem readsAlike_names {items items' : List Value} (span span' : Span)
    (ofTables ofTables' : Bool) (h : List.Forall₂ (text none).ReadsAlike items items') :
    names.ReadsAlike (.array span ofTables items) (.array span' ofTables' items') := by
  have read : (readItems (readText "a string") items).toOption =
      (readItems (readText "a string") items').toOption := toOption_readItems_congr h
  have alike := congrArg (Option.map NameSet.ofList) read
  rwa [← Except.toOption_map, ← Except.toOption_map] at alike

theorem readsAlike_map {item : Schema} {entries entries' : Entries} (span span' : Span)
    (origin origin' : Origin)
    (h : List.Forall₂ (fun e e' => e.1.name = e'.1.name ∧ item.ReadsAlike e.2 e'.2)
      entries entries') :
    (map item).ReadsAlike (.table span origin entries) (.table span' origin' entries') :=
  toOption_readEntries_congr h

variable {name : String} {fields : Fields}

/-- The items of an array count for the fields at their places. -/
theorem readsAlike_record_array {items items' : List Value} (span span' : Span)
    (ofTables ofTables' : Bool)
    (h : ∀ (i : Nat) f, fields.toList[i]? = some f → f.2.fill? items[i]? = f.2.fill? items'[i]?) :
    (record name fields).ReadsAlike (.array span ofTables items)
      (.array span' ofTables' items') := by
  have read : (fields.decodeItems (fun n => ⟨.wrongLength n name fields.names.length, span⟩) 0
      items).toOption = (fields.decodeItems
        (fun n => ⟨.wrongLength n name fields.names.length, span'⟩) 0 items').toOption := by
    rw [Fields.toOption_decodeItems, Fields.toOption_decodeItems]
    exact fields.fill?_congr h
  exact read

/-- **Of a table only what stands for each field counts**, and whether there is any other key. -/
theorem readsAlike_record_table (named : fields.WellNamed) {entries entries' : Entries}
    (span span' : Span) (origin origin' : Origin) (distinct : entries.Distinct)
    (distinct' : entries'.Distinct)
    (known : (∀ e ∈ entries, e.1.name ∈ fields.names) ↔ ∀ e ∈ entries', e.1.name ∈ fields.names)
    (h : ∀ f ∈ fields.toList, f.2.fill? (entries.get? f.1) = f.2.fill? (entries'.get? f.1)) :
    (record name fields).ReadsAlike (.table span origin entries)
      (.table span' origin' entries') := by
  rw [ReadsAlike, toOption_decode_record named (distinct.table span origin),
    toOption_decode_record named (distinct'.table span' origin'), Value.slots?, Value.slots?]
  by_cases hk : ∀ e ∈ entries, e.1.name ∈ fields.names
  · rw [if_pos hk, if_pos (known.1 hk)]
    refine fields.fill?_congr fun i f hf => ?_
    have hn : fields.names[i]? = some f.1 := by
      rw [fields.names_eq_map_toList, List.getElem?_map, hf]
      rfl
    rw [hn]
    exact h f (List.mem_of_getElem? hf)
  · rw [if_neg hk, if_neg (mt known.2 hk)]

end Schema

end GradleScript
