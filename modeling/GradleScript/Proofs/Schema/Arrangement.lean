import GradleScript.Proofs.Schema.Bare
import Mathlib.Logic.Relation

/-!
# Arrangements of a document

The keys of a record can be put in any order, and an optional one that is left out can be written
with its default, at any place. Neither changes what is read. The records may stand at any depth: as
fields of other records, in arrays, and under any keys of a table.

## Main definitions

* `Schema.written?`: how the default of a schema is written
* `Schema.Rearranges`: one change of the arrangement
* `Schema.Rearranged`: any number of changes

## Main results

* `Schema.readsAlike_field`, `Schema.readsAlike_item`, `Schema.readsAlike_entry`: one part is
  changed
* `Schema.Rearranges.readsAlike`: one change does not matter
* `Schema.Rearranged.readsAlike`: nor do any number of them
-/

namespace GradleScript

open Toml

/-! ## Middles of lists -/

/-- What holds of all elements still does when one is replaced by an element of which it holds. -/
theorem forall_mem_middle {α : Type} {P : α → Prop} {front back : List α} {a b : α}
    (h : ∀ c ∈ front ++ a :: back, P c) (hb : P b) : ∀ c ∈ front ++ b :: back, P c := by
  rw [List.forall_mem_append, List.forall_mem_cons] at h ⊢
  exact ⟨h.1, hb, h.2.2⟩

/-- Elements before and after two related ones. -/
theorem forall₂_middle {α : Type} {R : α → α → Prop} (refl : ∀ a, R a a) (front back : List α)
    {a b : α} (h : R a b) : List.Forall₂ R (front ++ a :: back) (front ++ b :: back) := by
  induction front with
  | nil => exact .cons h (List.forall₂_same.2 fun a _ => refl a)
  | cons c front ih => exact .cons (refl c) ih

/-! ## Entries -/

namespace Toml.Entries

theorem get?_append (name : String) (front back : Entries) :
    get? name (front ++ back) = (get? name front).or (get? name back) := by
  simp [get?, List.find?_append, Option.map_or]

/-- An entry does not matter for other keys. -/
theorem get?_middle_of_ne {name : String} {key : Key} (h : key.name ≠ name) (value : Value)
    (front back : Entries) :
    get? name (front ++ (key, value) :: back) = get? name (front ++ back) := by
  rw [get?_append, get?_append, get?_cons, if_neg h]

namespace Distinct

variable {entries front back : Entries} {key : Key} {value other : Value}

theorem get?_middle (h : Distinct (front ++ (key, value) :: back)) :
    get? key.name (front ++ (key, value) :: back) = some value :=
  h.get?_eq_some_iff.2 ⟨key, by simp, rfl⟩

theorem of_perm (h : entries.Distinct) {others : Entries} (perm : entries.Perm others) :
    others.Distinct :=
  ⟨(perm.map _).nodup_iff.1 h.nodup, fun e he => h.each e (perm.mem_iff.2 he)⟩

/-- The order of the entries does not matter for what a key has. -/
theorem get?_perm (h : entries.Distinct) {others : Entries} (perm : entries.Perm others)
    (name : String) : get? name entries = get? name others := by
  refine Option.ext fun value => ?_
  rw [h.get?_eq_some_iff, (h.of_perm perm).get?_eq_some_iff]
  simp only [perm.mem_iff]

theorem insert (h : Distinct (front ++ back)) (new : key.name ∉ (front ++ back).map (·.1.name))
    (hv : value.Distinct) : Distinct (front ++ (key, value) :: back) := by
  -- the new entry may as well come first
  have first : Distinct ((key, value) :: (front ++ back)) := by
    refine ⟨?_, ?_⟩
    · rw [List.map_cons, List.nodup_cons]
      exact ⟨new, h.nodup⟩
    · rw [List.forall_mem_cons]
      exact ⟨hv, h.each⟩
  exact first.of_perm List.perm_middle.symm

theorem replace (h : Distinct (front ++ (key, value) :: back)) (hv : other.Distinct) :
    Distinct (front ++ (key, other) :: back) :=
  ⟨by simpa using h.nodup, forall_mem_middle h.each hv⟩

theorem middle (h : Distinct (front ++ (key, value) :: back)) : value.Distinct :=
  h.each (key, value) (by simp)

end Distinct

end Toml.Entries

namespace Schema

/-! ## Defaults -/

/-- How the default of a schema is written, if it has one that can be. -/
def written? (s : Schema) : Option Value := s.default?.bind s.write?

/-- A default is read back. -/
theorem recovers_default {s : Schema} {c : s.Carrier} (h : s.default? = some c) : s.Recovers c := by
  cases s with
  | text default => exact recovers_text default c
  | optionalText => exact recovers_optionalText c
  | path => cases h
  | flag => exact recovers_flag c
  | level => cases h
  | names => exact recovers_names c
  | list item =>
    cases h
    exact recovers_list (by simp) (by simp)
  | map item =>
    cases h
    exact recovers_map (by simp) (by simp) (by simp)
  | record name fields => cases h

/-- A default that is written fills its slot as nothing does. -/
theorem distinct_and_fill?_of_written? {s : Schema} {value : Value}
    (h : s.written? = some value) : value.Distinct ∧ s.fill? (some value) = s.fill? none := by
  obtain ⟨c, hc, hw⟩ := Option.bind_eq_some_iff.1 h
  have recovers := recovers_default hc
  refine ⟨recovers.distinct value hw, ?_⟩
  rw [← hw, recovers.fill, fill?, hc]

/-! ## Parts -/

theorem readsAlike_refl (s : Schema) (v : Value) : s.ReadsAlike v v := rfl

section Parts

variable {name : String} {fields : Fields} {item schema : Schema} {v v' : Value}

/-- A field that is read alike may be exchanged in a table. -/
theorem readsAlike_field (named : fields.WellNamed) (span : Span) (origin : Origin)
    {front back : Entries} {key : Key} (field : (key.name, schema) ∈ fields.toList)
    (distinct : Entries.Distinct (front ++ (key, v) :: back))
    (distinct' : Entries.Distinct (front ++ (key, v') :: back)) (value : schema.ReadsAlike v v') :
    (record name fields).ReadsAlike (.table span origin (front ++ (key, v) :: back))
      (.table span origin (front ++ (key, v') :: back)) := by
  refine readsAlike_record_table named _ _ _ _ distinct distinct' ?_ fun f hf => ?_
  · simp only [List.forall_mem_append, List.forall_mem_cons]
  · by_cases hk : key.name = f.1
    · obtain rfl : f = (key.name, schema) := named.eq_of_name_eq hf field hk.symm
      rw [distinct.get?_middle, distinct'.get?_middle]
      exact value
    · rw [Entries.get?_middle_of_ne hk, Entries.get?_middle_of_ne hk]

/-- So may an item of an array. -/
theorem readsAlike_item (span : Span) (ofTables : Bool) (front back : List Value)
    (value : item.ReadsAlike v v') :
    (list item).ReadsAlike (.array span ofTables (front ++ v :: back))
      (.array span ofTables (front ++ v' :: back)) :=
  readsAlike_list _ _ _ _ (forall₂_middle item.readsAlike_refl _ _ value)

/-- So may the value of any key in a table with any keys. -/
theorem readsAlike_entry (span : Span) (origin : Origin) (front back : Entries) (key : Key)
    (value : item.ReadsAlike v v') :
    (map item).ReadsAlike (.table span origin (front ++ (key, v) :: back))
      (.table span origin (front ++ (key, v') :: back)) :=
  readsAlike_map _ _ _ _ (forall₂_middle (fun _ => ⟨rfl, rfl⟩) _ _ ⟨rfl, value⟩)

end Parts

/-- What one change keeps, any number of changes keep. -/
theorem readsAlike_of_reflTransGen {s : Schema} {R : Value → Value → Prop}
    (step : ∀ v v', R v v' → v.Distinct → v'.Distinct ∧ s.ReadsAlike v v') {v v' : Value}
    (h : Relation.ReflTransGen R v v') (distinct : v.Distinct) :
    v'.Distinct ∧ s.ReadsAlike v v' := by
  induction h with
  | refl => exact ⟨distinct, s.readsAlike_refl v⟩
  | tail _ change ih =>
    obtain ⟨before, alike⟩ := ih
    obtain ⟨after, same⟩ := step _ _ change before
    exact ⟨after, alike.trans same⟩

/-! ## Changes -/

/-- One change of the arrangement of a value. -/
inductive Rearranges : Schema → Value → Value → Prop where
  /-- The value is moved to another place of the text. -/
  | move {s : Schema} {v v' : Value} (same : v.bare = v'.bare) : Rearranges s v v'
  /-- The keys of a record are put in another order. -/
  | reorder {name : String} {fields : Fields} {span : Span} {origin : Origin}
    {entries entries' : Entries} (perm : entries.Perm entries') :
    Rearranges (.record name fields) (.table span origin entries) (.table span origin entries')
  /-- A key of a record that is left out is written with its default. -/
  | addDefault {name : String} {fields : Fields} {span : Span} {origin : Origin}
    {front back : Entries} {key : Key} {schema : Schema} {value : Value}
    (field : (key.name, schema) ∈ fields.toList) (default : schema.written? = some value)
    (absent : key.name ∉ (front ++ back).map (·.1.name)) :
    Rearranges (.record name fields) (.table span origin (front ++ back))
      (.table span origin (front ++ (key, value) :: back))
  /-- The value of a key of a record is changed. -/
  | inField {name : String} {fields : Fields} {span : Span} {origin : Origin}
    {front back : Entries} {key : Key} {schema : Schema} {v v' : Value}
    (field : (key.name, schema) ∈ fields.toList) (change : Rearranges schema v v') :
    Rearranges (.record name fields) (.table span origin (front ++ (key, v) :: back))
      (.table span origin (front ++ (key, v') :: back))
  /-- An item of an array is changed. -/
  | inItem {item : Schema} {span : Span} {ofTables : Bool} {front back : List Value} {v v' : Value}
    (change : Rearranges item v v') :
    Rearranges (.list item) (.array span ofTables (front ++ v :: back))
      (.array span ofTables (front ++ v' :: back))
  /-- The value of some key of a table is changed. -/
  | inEntry {item : Schema} {span : Span} {origin : Origin} {front back : Entries} {key : Key}
    {v v' : Value} (change : Rearranges item v v') :
    Rearranges (.map item) (.table span origin (front ++ (key, v) :: back))
      (.table span origin (front ++ (key, v') :: back))

/-- Any number of changes, one after the other. -/
def Rearranged (s : Schema) : Value → Value → Prop :=
  Relation.ReflTransGen s.Rearranges

variable {s : Schema} {v v' : Value}

/-- A change keeps keys distinct. -/
theorem Rearranges.distinct (h : s.Rearranges v v') (distinct : v.Distinct) : v'.Distinct := by
  induction h with
  | @move s v v' same =>
    rw [← Value.distinct_bare, ← same, Value.distinct_bare]
    exact distinct
  | reorder perm => exact (distinct.entries.of_perm perm).table _ _
  | addDefault field default absent =>
    exact (distinct.entries.insert absent (distinct_and_fill?_of_written? default).1).table _ _
  | inField field change ih =>
    exact (distinct.entries.replace (ih distinct.entries.middle)).table _ _
  | inItem change ih =>
    exact .array _ _ (forall_mem_middle distinct.items (ih (distinct.items _ (by simp))))
  | inEntry change ih => exact (distinct.entries.replace (ih distinct.entries.middle)).table _ _

/-- **A change does not matter for what is read.** -/
theorem Rearranges.readsAlike (h : s.Rearranges v v') (named : s.WellNamed)
    (distinct : v.Distinct) : s.ReadsAlike v v' := by
  have after := h.distinct distinct
  induction h with
  | @move s v v' same =>
    have before := readsAlike_bare s named v distinct
    have moved := readsAlike_bare s named v' after
    rw [same] at before
    exact before.symm.trans moved
  | reorder perm =>
    refine readsAlike_record_table named.1 _ _ _ _ distinct.entries after.entries ?_ fun f _ => ?_
    · simp only [perm.mem_iff]
    · rw [distinct.entries.get?_perm perm]
  | @addDefault name fields span origin front back key schema value field default absent =>
    refine readsAlike_record_table named.1 _ _ _ _ distinct.entries after.entries ?_ fun f hf => ?_
    · have known : key.name ∈ fields.names :=
        fields.names_eq_map_toList ▸ List.mem_map_of_mem field
      simp only [List.forall_mem_append, List.forall_mem_cons, known, true_and]
    · by_cases hk : key.name = f.1
      · obtain rfl : f = (key.name, schema) := named.1.eq_of_name_eq hf field hk.symm
        rw [Entries.get?_eq_none_iff.2 absent, after.entries.get?_middle]
        exact (distinct_and_fill?_of_written? default).2.symm
      · rw [Entries.get?_middle_of_ne hk]
  | inField field change ih =>
    have value := ih (named.2.of_mem _ field) distinct.entries.middle after.entries.middle
    exact readsAlike_field named.1 _ _ field distinct.entries after.entries value
  | inItem change ih =>
    exact readsAlike_item _ _ _ _ (ih named (distinct.items _ (by simp)) (after.items _ (by simp)))
  | inEntry change ih =>
    exact readsAlike_entry _ _ _ _ _ (ih named distinct.entries.middle after.entries.middle)

theorem Rearranged.distinct (h : s.Rearranged v v') (distinct : v.Distinct) : v'.Distinct := by
  induction h with
  | refl => exact distinct
  | tail _ change ih => exact change.distinct ih

/-- **An arrangement does not matter for what is read.** -/
theorem Rearranged.readsAlike (h : s.Rearranged v v') (named : s.WellNamed)
    (distinct : v.Distinct) : s.ReadsAlike v v' :=
  (readsAlike_of_reflTransGen
    (fun _ _ change before => ⟨change.distinct before, change.readsAlike named before⟩)
    h distinct).2

end Schema

end GradleScript
