import GradleScript.Proofs.Schema.Parts
import GradleScript.Proofs.Schema.Record

/-!
# Which values a schema reads

A schema reads a value or reports a mismatch. Which values it reads can be said without following
the order in which it reads them: a section is a table with the keys of its fields, none missing
that is required, or an array that gives the fields in order and reaches all that are required.

## Main definitions

* `IsText`, `IsFlag`, `IsLevel`, `IsArrayOf`, `IsTableOf`: kinds of values
* `FieldForm`: a key with the values that may stand for it
* `IsSection`: the values that give the fields of a section
* `Schema.Reads`, `Fields.Reads`: a schema reads exactly the values of a kind

## Main results

* `Schema.reads_names`, `Schema.reads_list`, `Schema.reads_map`: arrays and tables of one kind
* `Schema.reads_record`: a record reads exactly the sections with its fields
-/

namespace GradleScript

open Toml

/-! ## Kinds of values -/

/-- The value is a text. -/
def IsText (v : Value) : Prop := ∃ span s, v = .scalar span (.text s)

/-- The value is a truth value. -/
def IsFlag (v : Value) : Prop := ∃ span b, v = .scalar span (.boolean b)

/-- The value is a whole number of 32 bits without a sign. -/
def IsLevel (v : Value) : Prop :=
  ∃ span n, v = .scalar span (.integer (some n)) ∧ 0 ≤ n ∧ n < UInt32.size

/-- The value is an array of such values. -/
def IsArrayOf (P : Value → Prop) (v : Value) : Prop :=
  ∃ span ofTables items, v = .array span ofTables items ∧ ∀ item ∈ items, P item

/-- The value is a table with such values, whatever its keys. -/
def IsTableOf (P : Value → Prop) (v : Value) : Prop :=
  ∃ span origin entries, v = .table span origin entries ∧ ∀ e ∈ entries, P e.2

theorem isArrayOf_array {P : Value → Prop} {span : Span} {ofTables : Bool} {items : List Value} :
    IsArrayOf P (.array span ofTables items) ↔ ∀ item ∈ items, P item := by
  constructor
  · rintro ⟨_, _, _, ⟨⟩, h⟩
    exact h
  · intro h
    exact ⟨span, ofTables, items, rfl, h⟩

theorem isTableOf_table {P : Value → Prop} {span : Span} {origin : Origin} {entries : Entries} :
    IsTableOf P (.table span origin entries) ↔ ∀ e ∈ entries, P e.2 := by
  constructor
  · rintro ⟨_, _, _, ⟨⟩, h⟩
    exact h
  · intro h
    exact ⟨span, origin, entries, rfl, h⟩

/-- A field of a section. -/
structure FieldForm where
  /-- Its key in a table. -/
  name : String
  /-- Whether it has to be given. -/
  required : Bool
  /-- The values that may stand for it. -/
  Admits : Value → Prop

/-- The entries have no keys but those of the fields, with admitted values, and every required
field has a key. -/
structure EntriesFit (forms : List FieldForm) (entries : Entries) : Prop where
  known : ∀ e ∈ entries, ∃ form ∈ forms, form.name = e.1.name ∧ form.Admits e.2
  required : ∀ form ∈ forms, form.required = true → ∃ e ∈ entries, e.1.name = form.name

/-- The items are admitted for the fields at their places and reach every required field. Items
after the last field do not count. -/
structure ItemsFit (forms : List FieldForm) (items : List Value) : Prop where
  admitted : ∀ (i : Nat) item form, items[i]? = some item → forms[i]? = some form →
    form.Admits item
  required : ∀ (i : Nat) form, forms[i]? = some form → form.required = true → i < items.length

/-- The value gives the fields of a section, as a table or as an array. -/
inductive IsSection (forms : List FieldForm) : Value → Prop where
  | table {span : Span} {origin : Origin} {entries : List (Key × Value)} :
    EntriesFit forms entries → IsSection forms (.table span origin entries)
  | array {span : Span} {ofTables : Bool} {items : List Value} :
    ItemsFit forms items → IsSection forms (.array span ofTables items)

/-- What may stand in the slot of a field; nothing may if it is not required. -/
def FieldForm.Fits (form : FieldForm) : Option Value → Prop
  | none => form.required = false
  | some v => form.Admits v

/-! ## Schemas -/

/-- The schema reads exactly the values of this kind, among those whose keys are distinct. -/
def Schema.Reads (s : Schema) (P : Value → Prop) : Prop :=
  ∀ v : Value, v.Distinct → ((s.decode v).toOption.isSome = true ↔ P v)

/-- The fields have these names, require what is required and read exactly what is admitted. -/
inductive Fields.Reads : Fields → List FieldForm → Prop where
  | nil : Reads .nil []
  | cons {name : String} {schema : Schema} {rest : Fields} {required : Bool} {P : Value → Prop}
    {forms : List FieldForm} :
    schema.default?.isNone = required → schema.Reads P → rest.Reads forms →
      Reads (.cons name schema rest) (⟨name, required, P⟩ :: forms)

theorem not_isSome_of_eq_error {ε α : Type} {x : Except ε α} {e : ε} (h : x = .error e) :
    ¬ x.toOption.isSome = true := by
  rw [h]
  exact Bool.false_ne_true

theorem isSome_readText (wanted : String) (v : Value) :
    (readText wanted v).toOption.isSome = true ↔ IsText v := by
  unfold readText
  split
  · next span s => exact iff_of_true rfl ⟨span, s, rfl⟩
  · next h =>
    refine iff_of_false (not_isSome_of_eq_error rfl) ?_
    rintro ⟨span, s, e⟩
    exact h span s e

theorem isSome_readFlag (v : Value) : (readFlag v).toOption.isSome = true ↔ IsFlag v := by
  unfold readFlag
  split
  · next span b => exact iff_of_true rfl ⟨span, b, rfl⟩
  · next h =>
    refine iff_of_false (not_isSome_of_eq_error rfl) ?_
    rintro ⟨span, b, e⟩
    exact h span b e

theorem isSome_readLevel (v : Value) : (readLevel v).toOption.isSome = true ↔ IsLevel v := by
  unfold readLevel
  split
  · next span n =>
    split
    · next h => exact iff_of_true rfl ⟨span, n, rfl, h⟩
    · next h =>
      refine iff_of_false ?_ ?_
      · split <;> simp [Except.toOption]
      · rintro ⟨_, m, e, hm⟩
        cases e
        exact h hm
  · next h =>
    refine iff_of_false (not_isSome_of_eq_error rfl) ?_
    rintro ⟨span, n, e, -⟩
    exact h span n e

theorem isSome_readItems {α : Type} (read : Value → Except Mismatch α) (items : List Value) :
    (readItems read items).toOption.isSome = true ↔
      ∀ v ∈ items, (read v).toOption.isSome = true := by
  simp only [Except.isSome_toOption_iff, readItems_eq_ok_iff]
  rw [exists_eq_map_some_iff, List.forall_mem_map]
  simp only [Except.isSome_toOption_iff]

theorem isSome_readEntries {α : Type} (read : Value → Except Mismatch α) (entries : Entries) :
    (readEntries read entries).toOption.isSome = true ↔
      ∀ e ∈ entries, (read e.2).toOption.isSome = true := by
  rw [Except.isSome_toOption_iff]
  simp only [readEntries_eq_ok_iff]
  rw [exists_eq_map_some_iff, List.forall_mem_map]
  simp only [Option.isSome_map]

namespace Schema

theorem reads_text (default : Option String) : (text default).Reads IsText :=
  fun v _ => isSome_readText _ v

theorem reads_optionalText : optionalText.Reads IsText := by
  intro v _
  rw [← isSome_readText "a string" v]
  unfold decode
  cases readText "a string" v <;> rfl

theorem reads_path : path.Reads IsText :=
  fun v _ => isSome_readText _ v

theorem reads_flag : flag.Reads IsFlag :=
  fun v _ => isSome_readFlag v

theorem reads_level : level.Reads IsLevel :=
  fun v _ => isSome_readLevel v

theorem reads_names : names.Reads (IsArrayOf IsText) := by
  intro v _
  cases v with
  | array span ofTables items =>
    -- dropping later mentions of a name cannot fail
    have read : ((readItems (readText "a string") items).map NameSet.ofList).toOption.isSome =
        (readItems (readText "a string") items).toOption.isSome := by
      cases readItems (readText "a string") items <;> rfl
    have each : (readItems (readText "a string") items).toOption.isSome = true ↔
        ∀ v ∈ items, IsText v := by
      rw [isSome_readItems]
      simp only [isSome_readText]
    exact (read ▸ each).trans isArrayOf_array.symm
  | scalar span value => exact iff_of_false (not_isSome_of_eq_error rfl) (by simp [IsArrayOf])
  | table span origin entries =>
    exact iff_of_false (not_isSome_of_eq_error rfl) (by simp [IsArrayOf])

theorem reads_list {item : Schema} {P : Value → Prop} (h : item.Reads P) :
    (list item).Reads (IsArrayOf P) := by
  intro v distinct
  cases v with
  | array span ofTables items =>
    have each : (readItems item.decode items).toOption.isSome = true ↔ ∀ v ∈ items, P v := by
      rw [isSome_readItems]
      exact forall₂_congr fun v hv => h v (distinct.items v hv)
    exact each.trans isArrayOf_array.symm
  | scalar span value => exact iff_of_false (not_isSome_of_eq_error rfl) (by simp [IsArrayOf])
  | table span origin entries =>
    exact iff_of_false (not_isSome_of_eq_error rfl) (by simp [IsArrayOf])

/-- A date or time is taken for a table with a text. It is read only if a text can be. -/
theorem reads_map {item : Schema} {P : Value → Prop} (h : item.Reads P)
    (no_text : ∀ v, IsText v → ¬ P v) : (map item).Reads (IsTableOf P) := by
  intro v distinct
  cases v with
  | scalar span value =>
    refine iff_of_false ?_ (by simp [IsTableOf])
    cases value with
    | dateTime d =>
      have each := isSome_readEntries item.decode
        [(⟨dateTimeKey, span⟩, .scalar span (.text d.text))]
      intro read
      have text := h (.scalar span (.text d.text)) (.scalar _ _)
      exact no_text _ ⟨span, d.text, rfl⟩ (text.1 (each.1 read _ List.mem_cons_self))
    | _ => exact not_isSome_of_eq_error rfl
  | array span ofTables items =>
    exact iff_of_false (not_isSome_of_eq_error rfl) (by simp [IsTableOf])
  | table span origin entries =>
    have each : (readEntries item.decode entries).toOption.isSome = true ↔
        ∀ e ∈ entries, P e.2 := by
      rw [isSome_readEntries]
      exact forall₂_congr fun e he => h e.2 (distinct.entries.each e he)
    exact each.trans isTableOf_table.symm

end Schema

/-! ## Records -/

namespace Fields.Reads

variable {fs : Fields} {forms : List FieldForm}

theorem names_eq (h : fs.Reads forms) : fs.names = forms.map (·.name) := by
  induction h with
  | nil => rfl
  | cons _ _ _ ih => rw [names, ih, List.map_cons]

end Fields.Reads

theorem isSome_fill?_iff_fits (name : String) {schema : Schema} {required : Bool}
    {P : Value → Prop} (default : schema.default?.isNone = required) (h : schema.Reads P)
    {slot : Option Value} (distinct : ∀ v ∈ slot, v.Distinct) :
    (schema.fill? slot).isSome = true ↔ (⟨name, required, P⟩ : FieldForm).Fits slot := by
  cases slot with
  | none =>
    rw [Schema.fill?, FieldForm.Fits, ← default]
    cases schema.default? <;> simp
  | some v => exact h v (distinct v rfl)

/-- Slots can be filled if what stands in each fits its field. -/
theorem Fields.Reads.isSome_fill?_iff {fs : Fields} {forms : List FieldForm} (h : fs.Reads forms)
    {slots : Nat → Option Value} (distinct : ∀ i, ∀ v ∈ slots i, v.Distinct) :
    (fs.fill? slots).isSome = true ↔
      ∀ (i : Nat) form, forms[i]? = some form → form.Fits (slots i) := by
  induction h generalizing slots with
  | nil => exact iff_of_true rfl (by simp)
  | @cons name schema rest required P forms default read _ ih =>
    have first := isSome_fill?_iff_fits name default read (distinct 0)
    have others := ih fun i => distinct (i + 1)
    have both : ((Fields.cons name schema rest).fill? slots).isSome = true ↔
        (schema.fill? (slots 0)).isSome = true ∧
          (rest.fill? fun i => slots (i + 1)).isSome = true := by
      rw [fill?]
      cases schema.fill? (slots 0) with
      | none => simp
      | some value =>
        cases rest.fill? fun i => slots (i + 1) with
        | none => simp
        | some values => exact iff_of_true rfl ⟨rfl, rfl⟩
    rw [both, first, others]
    constructor
    · rintro ⟨h₀, h⟩ i form hi
      cases i with
      | zero =>
        cases hi
        exact h₀
      | succ i => exact h i form hi
    · intro h
      exact ⟨h 0 _ rfl, fun i form hi => h (i + 1) form hi⟩

theorem eq_of_name_eq {forms : List FieldForm} (nodup : (forms.map (·.name)).Nodup)
    {a b : FieldForm} (ha : a ∈ forms) (hb : b ∈ forms) (h : a.name = b.name) : a = b := by
  have apart : forms.Pairwise fun a b => a.name ≠ b.name := List.pairwise_map.1 nodup
  have forward : forms.Pairwise fun a b => a.name = b.name → a = b :=
    apart.imp fun ne e => absurd e ne
  have backward : forms.Pairwise fun a b => b.name = a.name → b = a :=
    apart.imp fun ne e => absurd e.symm ne
  exact forward.forall_of_forall_of_flip (fun _ _ _ => rfl) backward ha hb h

/-- The values of the keys of a table fit if its entries do. -/
theorem entriesFit_iff {forms : List FieldForm} (nodup : (forms.map (·.name)).Nodup)
    {entries : Entries} (distinct : entries.Distinct) :
    EntriesFit forms entries ↔ (∀ e ∈ entries, e.1.name ∈ forms.map (·.name)) ∧
      ∀ form ∈ forms, form.Fits (entries.get? form.name) := by
  constructor
  · rintro ⟨known, required⟩
    refine ⟨?_, ?_⟩
    · intro e he
      obtain ⟨form, hf, hn, -⟩ := known e he
      exact hn ▸ List.mem_map_of_mem hf
    · intro form hf
      cases hg : entries.get? form.name with
      | none =>
        rw [FieldForm.Fits, ← Bool.not_eq_true]
        intro hr
        obtain ⟨e, he, hn⟩ := required form hf hr
        exact Entries.get?_eq_none_iff.1 hg (hn ▸ List.mem_map_of_mem he)
      | some v =>
        obtain ⟨key, he, hn⟩ := Entries.mem_of_get?_eq_some hg
        obtain ⟨form', hf', hn', admitted⟩ := known _ he
        -- names are distinct, so that the field of the key is this one
        exact eq_of_name_eq nodup hf' hf (hn'.trans hn) ▸ admitted
  · rintro ⟨known, fits⟩
    refine ⟨?_, ?_⟩
    · intro e he
      obtain ⟨form, hf, hn⟩ := List.mem_map.1 (known e he)
      have hg : entries.get? form.name = some e.2 :=
        distinct.get?_eq_some_iff.2 ⟨e.1, he, hn.symm⟩
      have admitted := fits form hf
      rw [hg] at admitted
      exact ⟨form, hf, hn, admitted⟩
    · intro form hf hr
      cases hg : entries.get? form.name with
      | none =>
        have fits := fits form hf
        rw [hg, FieldForm.Fits, hr] at fits
        exact absurd fits (by decide)
      | some v =>
        obtain ⟨key, he, hn⟩ := Entries.mem_of_get?_eq_some hg
        exact ⟨_, he, hn⟩

theorem itemsFit_iff {forms : List FieldForm} {items : List Value} :
    ItemsFit forms items ↔ ∀ (i : Nat) form, forms[i]? = some form → form.Fits items[i]? := by
  constructor
  · rintro ⟨admitted, required⟩ i form hi
    cases hg : items[i]? with
    | none =>
      rw [FieldForm.Fits, ← Bool.not_eq_true]
      intro hr
      have lt := required i form hi hr
      rw [List.getElem?_eq_none_iff] at hg
      omega
    | some item => exact admitted i item form hg hi
  · intro fits
    refine ⟨?_, ?_⟩
    · intro i item form hg hi
      have fits := fits i form hi
      rw [hg] at fits
      exact fits
    · intro i form hi hr
      have fits := fits i form hi
      by_cases hl : i < items.length
      · exact hl
      · rw [List.getElem?_eq_none (by omega), FieldForm.Fits, hr] at fits
        exact absurd fits (by decide)

namespace Fields.Reads

variable {fields : Fields} {forms : List FieldForm}

/-- The slots of an array can be filled if its items fit. -/
theorem isSome_fill?_array (h : fields.Reads forms) {items : List Value}
    (distinct : ∀ v ∈ items, v.Distinct) :
    (fields.fill? fun i => items[i]?).isSome = true ↔ ItemsFit forms items := by
  have slots_distinct : ∀ i : Nat, ∀ v ∈ items[i]?, v.Distinct :=
    fun i v hv => distinct v (List.mem_of_getElem? hv)
  rw [h.isSome_fill?_iff slots_distinct, itemsFit_iff]

/-- The slots of a table without other keys can be filled if its entries fit. -/
theorem isSome_fill?_table (h : fields.Reads forms) (nodup : fields.names.Nodup)
    {entries : Entries} (distinct : entries.Distinct)
    (known : ∀ e ∈ entries, e.1.name ∈ fields.names) :
    (fields.fill? fun i => fields.names[i]?.bind fun name => entries.get? name).isSome = true ↔
      EntriesFit forms entries := by
  have slots_distinct : ∀ i : Nat, ∀ v ∈ fields.names[i]?.bind fun name => entries.get? name,
      v.Distinct := by
    intro i v hv
    obtain ⟨name, -, hg⟩ := Option.bind_eq_some_iff.1 hv
    exact distinct.of_get? hg
  rw [h.names_eq] at nodup known
  rw [h.isSome_fill?_iff slots_distinct, h.names_eq, entriesFit_iff nodup distinct]
  constructor
  · intro fits
    refine ⟨known, ?_⟩
    intro form hf
    obtain ⟨i, hi⟩ := List.mem_iff_getElem?.1 hf
    simpa [hi] using fits i form hi
  · rintro ⟨-, fits⟩ i form hi
    simpa [hi] using fits form (List.mem_of_getElem? hi)

end Fields.Reads

/-- **A record reads exactly the sections with its fields.** -/
theorem Schema.reads_record {name : String} {fields : Fields} {forms : List FieldForm}
    (h : fields.Reads forms) (named : fields.WellNamed) :
    (record name fields).Reads (IsSection forms) := by
  intro v distinct
  rw [toOption_decode_record named distinct]
  cases v with
  | scalar span value =>
    refine iff_of_false Bool.false_ne_true ?_
    rintro ⟨⟩
  | array span ofTables items =>
    refine (h.isSome_fill?_array distinct.items).trans ⟨.array, ?_⟩
    rintro ⟨⟩
    assumption
  | table span origin entries =>
    rw [Value.slots?]
    -- an unknown key fits no field, whatever else the table holds
    by_cases known : ∀ e ∈ entries, e.1.name ∈ fields.names
    · rw [if_pos known]
      refine (h.isSome_fill?_table named.nodup distinct.entries known).trans ⟨.table, ?_⟩
      rintro ⟨⟩
      assumption
    · rw [if_neg known]
      refine iff_of_false Bool.false_ne_true ?_
      rintro ⟨fit⟩
      apply known
      intro e he
      obtain ⟨form, hf, e, -⟩ := fit.known e he
      exact h.names_eq ▸ e ▸ List.mem_map_of_mem hf

end GradleScript
