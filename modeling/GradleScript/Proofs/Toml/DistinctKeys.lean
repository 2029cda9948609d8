import GradleScript.Proofs.Toml.TableProperty

/-!
# Keys of a document are distinct

No table of a document has a key twice, at whatever depth it stands and however it came to be: by
a header, by the header of a table inside it, by dotted keys, or in braces. Each line that is read
keeps this of the draft, and so the whole document has it.

## Main definitions

* `Value.Distinct`, `Entries.Distinct`: no table has a key twice
* `distinctKeys`: this as a property that building a table keeps

## Main results

* `Draft.Distinct.read`: reading a line keeps keys distinct
* `Document.distinct_of_parse`: the keys of a document are distinct
-/

namespace GradleScript.Toml

/-- No table in the value has a key twice. -/
inductive Value.Distinct : Value → Prop where
  | scalar (span : Span) (value : Scalar) : Distinct (.scalar span value)
  | array (span : Span) (ofTables : Bool) {items : List Value} (each : ∀ v ∈ items, Distinct v) :
    Distinct (.array span ofTables items)
  | table (span : Span) (origin : Origin) {entries : List (Key × Value)}
    (nodup : (entries.map (·.1.name)).Nodup) (each : ∀ e ∈ entries, Distinct e.2) :
    Distinct (.table span origin entries)

/-- No key is there twice, nor in a table among the values. -/
structure Entries.Distinct (entries : Entries) : Prop where
  nodup : (entries.map (·.1.name)).Nodup
  each : ∀ e ∈ entries, e.2.Distinct

theorem Value.Distinct.entries {span : Span} {origin : Origin} {entries : Entries}
    (h : (Value.table span origin entries).Distinct) : entries.Distinct := by
  cases h with
  | table _ _ nodup each => exact ⟨nodup, each⟩

theorem Value.Distinct.items {span : Span} {ofTables : Bool} {items : List Value}
    (h : (Value.array span ofTables items).Distinct) : ∀ v ∈ items, v.Distinct := by
  cases h with
  | array _ _ each => exact each

namespace Entries

theorem mem_of_get?_eq_some {name : String} {value : Value} {entries : Entries}
    (h : entries.get? name = some value) : ∃ key, (key, value) ∈ entries ∧ key.name = name := by
  obtain ⟨⟨key, v⟩, he, rfl⟩ := Option.map_eq_some_iff.1 h
  exact ⟨key, List.mem_of_find?_eq_some he, by simpa using List.find?_some he⟩

theorem get?_eq_none_iff {name : String} {entries : Entries} :
    entries.get? name = none ↔ name ∉ entries.map (·.1.name) := by
  simp [get?]

namespace Distinct

variable {entries : Entries}

theorem nil : Distinct [] := ⟨by simp, by simp⟩

theorem table (h : entries.Distinct) (span : Span) (origin : Origin) :
    (Value.table span origin entries).Distinct :=
  .table span origin h.nodup h.each

/-- The value of a key is the value of the only entry with that key. -/
theorem get?_eq_some_iff (h : entries.Distinct) {name : String} {value : Value} :
    entries.get? name = some value ↔ ∃ key, (key, value) ∈ entries ∧ key.name = name := by
  refine ⟨mem_of_get?_eq_some, ?_⟩
  rintro ⟨key, he, rfl⟩
  have nodup := h.nodup
  clear h
  induction entries with
  | nil => simp at he
  | cons e rest ih =>
    rw [List.map_cons, List.nodup_cons] at nodup
    rcases List.mem_cons.1 he with rfl | he
    · simp [get?_cons]
    · -- a later entry is found past the first one, which has another key
      have ne : e.1.name ≠ key.name := fun e' => nodup.1 (e' ▸ List.mem_map_of_mem he)
      rw [get?_cons, if_neg ne]
      exact ih he nodup.2

theorem of_get? (h : entries.Distinct) {name : String} {value : Value}
    (e : entries.get? name = some value) : value.Distinct := by
  obtain ⟨key, he, -⟩ := mem_of_get?_eq_some e
  exact h.each _ he

theorem add (h : entries.Distinct) {key : Key} {value : Value} (hk : entries.get? key.name = none)
    (hv : value.Distinct) : (entries.add key value).Distinct := by
  refine ⟨?_, ?_⟩
  · rw [Entries.add, List.map_append, List.nodup_append]
    refine ⟨h.nodup, by simp, ?_⟩
    intro name hn other ho e
    rw [List.map_singleton, List.mem_singleton] at ho
    exact get?_eq_none_iff.1 hk (ho ▸ e ▸ hn)
  · intro e he
    rcases List.mem_append.1 he with he | he
    · exact h.each e he
    · rw [List.mem_singleton.1 he]
      exact hv

theorem set (h : entries.Distinct) {name : String} {value : Value} (hv : value.Distinct) :
    (entries.set name value).Distinct := by
  have names : (entries.set name value).map (·.1.name) = entries.map (·.1.name) := by
    rw [Entries.set, List.map_map]
    refine List.map_congr_left fun e _ => ?_
    rw [Function.comp]
    split <;> rfl
  refine ⟨names ▸ h.nodup, ?_⟩
  intro e' he'
  obtain ⟨e, he, rfl⟩ := List.mem_map.1 he'
  split
  · exact hv
  · exact h.each e he

theorem erase (h : entries.Distinct) (name : String) : (entries.erase name).Distinct :=
  ⟨(List.filter_sublist.map _).nodup h.nodup, fun e he => h.each e (List.mem_filter.1 he).1⟩

end Distinct

end Entries

/-- That keys are distinct is kept as long as each key that is added is new. -/
def distinctKeys : TableProperty where
  OfValue := Value.Distinct
  OfEntries _ := Entries.Distinct
  scalar := .scalar
  array := ⟨Value.Distinct.items, .array _ _⟩
  table := ⟨Value.Distinct.entries, fun h => h.table _ _⟩
  nil _ := .nil
  get? h e := h.of_get? e
  add h new hv _ := h.add new hv
  set h hv _ := h.set hv
  erase name h := h.erase name
  reopen h := h

theorem distinctKeys_admits (line : Line) : distinctKeys.Admits line := by
  cases line with
  | field => exact fun k _ entries value h new hv => Entries.Distinct.add h new hv
  | header => trivial

/-! ## Drafts -/

namespace Draft

/-- The closed tables and the open one have distinct keys. -/
structure Distinct (d : Draft) : Prop where
  root : d.root.Distinct
  current : d.current.Distinct

/-- Reading a line keeps keys distinct. -/
theorem Distinct.read {d d' : Draft} (h : d.Distinct) {line : Line} (e : d.read line = .ok d') :
    d'.Distinct := by
  have before : distinctKeys.OfDraft d := ⟨h.root, h.current⟩
  have after := before.read (fun _ => distinctKeys_admits line) e
  exact ⟨after.root, after.current⟩

end Draft

/-- A document is a table, and no table in it has a key twice. -/
theorem Document.distinct_of_parse {text : String} {document : Value}
    (h : Document.parse text = .ok document) :
    ∃ entries : Entries, document = .table ⟨0, 0⟩ .header entries ∧ entries.Distinct :=
  distinctKeys.ofEntries_of_parse h fun _ _ _ _ line _ => distinctKeys_admits line

end GradleScript.Toml
