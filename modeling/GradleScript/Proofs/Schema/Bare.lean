import GradleScript.Proofs.Schema.Congruence
import GradleScript.Proofs.Schema.Written

/-!
# Values without their places

Every value and every key knows where in the text it stands, every table how it came to be and every
array how it is written. None of this counts for what the value stands for.

## Main definitions

* `Value.decEq`: values can be compared
* `Value.bare`: a value that stands in no text

## Main results

* `Value.distinct_bare`: a bare value has distinct keys if the value has
* `Schema.readsAlike_bare`: a bare value stands for what the value stands for
-/

namespace GradleScript

open Toml

namespace Toml

mutual

/-- Values can be compared. -/
def Value.decEq : (v w : Value) → Decidable (v = w)
  | .scalar p a, .scalar q b => decidable_of_iff (p = q ∧ a = b) (by simp)
  | .array p t as, .array q u bs =>
    have := decEqItems as bs
    decidable_of_iff (p = q ∧ t = u ∧ as = bs) (by simp)
  | .table p o as, .table q r bs =>
    have := decEqEntries as bs
    decidable_of_iff (p = q ∧ o = r ∧ as = bs) (by simp)
  | .scalar .., .array .. => isFalse (by simp)
  | .scalar .., .table .. => isFalse (by simp)
  | .array .., .scalar .. => isFalse (by simp)
  | .array .., .table .. => isFalse (by simp)
  | .table .., .scalar .. => isFalse (by simp)
  | .table .., .array .. => isFalse (by simp)

/-- Lists of values can be compared. -/
def Value.decEqItems : (as bs : List Value) → Decidable (as = bs)
  | [], [] => isTrue rfl
  | [], _ :: _ => isFalse (by simp)
  | _ :: _, [] => isFalse (by simp)
  | a :: as, b :: bs =>
    have := decEq a b
    have := decEqItems as bs
    decidable_of_iff (a = b ∧ as = bs) (by simp)

/-- Entries can be compared. -/
def Value.decEqEntries : (as bs : List (Key × Value)) → Decidable (as = bs)
  | [], [] => isTrue rfl
  | [], _ :: _ => isFalse (by simp)
  | _ :: _, [] => isFalse (by simp)
  | (k, a) :: as, (l, b) :: bs =>
    have := decEq a b
    have := decEqEntries as bs
    decidable_of_iff (k = l ∧ a = b ∧ as = bs) (by simp [and_assoc])

end

instance : DecidableEq Value := Value.decEq

mutual

/-- The value with its parts, but in no text. -/
def Value.bare : Value → Value
  | .scalar _ value => .scalar nowhere value
  | .array _ _ items => .ofItems (bareItems items)
  | .table _ _ entries => .ofEntries (bareEntries entries)

/-- Values in no text. -/
def Value.bareItems : List Value → List Value
  | [] => []
  | v :: rest => v.bare :: bareItems rest

/-- Entries in no text. -/
def Value.bareEntries : List (Key × Value) → List (Key × Value)
  | [] => []
  | (key, v) :: rest => (Key.ofName key.name, v.bare) :: bareEntries rest

end

theorem Value.bareItems_eq_map (items : List Value) : bareItems items = items.map bare := by
  induction items with
  | nil => rfl
  | cons v rest ih => rw [bareItems, ih, List.map_cons]

theorem Value.bareEntries_eq_map (entries : Entries) :
    bareEntries entries = entries.map fun e => (Key.ofName e.1.name, e.2.bare) := by
  induction entries with
  | nil => rfl
  | cons e rest ih => rw [bareEntries, ih, List.map_cons]

theorem Entries.get?_bareEntries (name : String) (entries : Entries) :
    Entries.get? name (Value.bareEntries entries) = (entries.get? name).map Value.bare := by
  induction entries with
  | nil => rfl
  | cons e rest ih =>
    rw [Value.bareEntries, Entries.get?_cons, Entries.get?_cons, ih, Key.ofName]
    split <;> rfl

theorem names_bareEntries (entries : Entries) :
    (Value.bareEntries entries).map (·.1.name) = entries.map (·.1.name) := by
  rw [Value.bareEntries_eq_map, List.map_map]
  rfl

mutual

/-- Keys are distinct wherever they stand. -/
theorem Value.distinct_bare : (v : Value) → (v.bare.Distinct ↔ v.Distinct)
  | .scalar span value => iff_of_true (.scalar _ _) (.scalar _ _)
  | .array span ofTables items => by
    have each := distinct_bareItems items
    exact ⟨fun h => .array _ _ (each.1 h.items), fun h => .array _ _ (each.2 h.items)⟩
  | .table span origin entries => by
    have each := distinct_bareEntries entries
    have names := names_bareEntries entries
    exact ⟨fun h => .table _ _ (names ▸ h.entries.nodup) (each.1 h.entries.each),
      fun h => .table _ _ (names ▸ h.entries.nodup) (each.2 h.entries.each)⟩

theorem Value.distinct_bareItems :
    (items : List Value) → ((∀ v ∈ bareItems items, v.Distinct) ↔ ∀ v ∈ items, v.Distinct)
  | [] => by simp [bareItems]
  | v :: rest => by
    rw [bareItems, List.forall_mem_cons, List.forall_mem_cons, distinct_bare v,
      distinct_bareItems rest]

theorem Value.distinct_bareEntries :
    (entries : List (Key × Value)) →
      ((∀ e ∈ bareEntries entries, e.2.Distinct) ↔ ∀ e ∈ entries, e.2.Distinct)
  | [] => by simp [bareEntries]
  | (key, v) :: rest => by
    rw [bareEntries, List.forall_mem_cons, List.forall_mem_cons, distinct_bare v,
      distinct_bareEntries rest]

end

end Toml

/-! ## Reading -/

namespace Schema

theorem toOption_readText_bare (wanted : String) (v : Value) :
    (readText wanted v.bare).toOption = (readText wanted v).toOption := by
  cases v with
  | scalar span value => cases value <;> rfl
  | array span ofTables items => rfl
  | table span origin entries => rfl

theorem toOption_readFlag_bare (v : Value) :
    (readFlag v.bare).toOption = (readFlag v).toOption := by
  cases v with
  | scalar span value => cases value <;> rfl
  | array span ofTables items => rfl
  | table span origin entries => rfl

theorem toOption_readLevel_bare (v : Value) :
    (readLevel v.bare).toOption = (readLevel v).toOption := by
  cases v with
  | scalar span value =>
    cases value with
    | integer n =>
      cases n with
      | none => rfl
      | some n =>
        rw [Value.bare]
        simp only [readLevel]
        -- whatever is wrong with a number that is out of range, it is not read
        split
        · rfl
        · split <;> rfl
    | _ => rfl
  | array span ofTables items => rfl
  | table span origin entries => rfl

/-- Items that are read alike in no text make arrays that are. -/
theorem forall₂_bareItems {s : Schema} {items : List Value}
    (h : ∀ v ∈ items, s.ReadsAlike v.bare v) :
    List.Forall₂ s.ReadsAlike (Value.bareItems items) items := by
  induction items with
  | nil => exact .nil
  | cons v rest ih =>
    rw [List.forall_mem_cons] at h
    exact .cons h.1 (ih h.2)

theorem forall₂_bareEntries {s : Schema} {entries : Entries}
    (h : ∀ e ∈ entries, s.ReadsAlike e.2.bare e.2) :
    List.Forall₂ (fun e e' => e.1.name = e'.1.name ∧ s.ReadsAlike e.2 e'.2)
      (Value.bareEntries entries) entries := by
  induction entries with
  | nil => exact .nil
  | cons e rest ih =>
    rw [List.forall_mem_cons] at h
    exact .cons ⟨rfl, h.1⟩ (ih h.2)

/-- A slot is filled alike. -/
theorem fill?_map_bare {s : Schema} {slot : Option Value}
    (h : ∀ v ∈ slot, s.ReadsAlike v.bare v) : s.fill? (slot.map Value.bare) = s.fill? slot := by
  cases slot with
  | none => rfl
  | some v => exact h v rfl

mutual

/-- **What a value stands for does not depend on its place.** -/
theorem readsAlike_bare :
    (s : Schema) → s.WellNamed → ∀ v : Value, v.Distinct → s.ReadsAlike v.bare v
  | .text _, _, v, _ => toOption_readText_bare _ v
  | .optionalText, _, v, _ => by
    have read := congrArg (Option.map some) (toOption_readText_bare "a string" v)
    rwa [← Except.toOption_map, ← Except.toOption_map] at read
  | .path, _, v, _ => toOption_readText_bare _ v
  | .flag, _, v, _ => toOption_readFlag_bare v
  | .level, _, v, _ => toOption_readLevel_bare v
  | .names, _, v, _ => by
    cases v with
    | scalar span value => cases value <;> rfl
    | array span ofTables items =>
      exact readsAlike_names _ _ _ _
        (forall₂_bareItems fun v _ => toOption_readText_bare "a string" v)
    | table span origin entries => rfl
  | .list item, named, v, distinct => by
    cases v with
    | scalar span value => cases value <;> rfl
    | array span ofTables items =>
      exact readsAlike_list _ _ _ _
        (forall₂_bareItems fun v hv => readsAlike_bare item named v (distinct.items v hv))
    | table span origin entries => rfl
  | .map item, named, v, distinct => by
    cases v with
    | scalar span value =>
      cases value with
      | dateTime d =>
        have text := readsAlike_bare item named (.scalar span (.text d.text)) (.scalar _ _)
        exact toOption_readEntries_congr (.cons ⟨rfl, text⟩ .nil)
      | _ => rfl
    | array span ofTables items => rfl
    | table span origin entries =>
      exact readsAlike_map _ _ _ _ (forall₂_bareEntries fun e he =>
        readsAlike_bare item named e.2 (distinct.entries.each e he))
  | .record name fields, named, v, distinct => by
    cases v with
    | scalar span value =>
      rw [ReadsAlike, toOption_decode_record named.1 distinct,
        toOption_decode_record named.1 ((Value.distinct_bare _).2 distinct)]
      rfl
    | array span ofTables items =>
      refine readsAlike_record_array _ _ _ _ fun i f hf => ?_
      rw [Value.bareItems_eq_map, List.getElem?_map]
      refine fill?_map_bare fun v hv => ?_
      exact readsAlike_bare_of_mem fields named.2 f (List.mem_of_getElem? hf) v
        (distinct.items v (List.mem_of_getElem? hv))
    | table span origin entries =>
      have bare := ((Value.distinct_bare _).2 distinct).entries
      refine readsAlike_record_table named.1 _ _ _ _ bare distinct.entries ?_ fun f hf => ?_
      · have keys : (∀ n ∈ (Value.bareEntries entries).map (·.1.name), n ∈ fields.names) ↔
            ∀ n ∈ entries.map (·.1.name), n ∈ fields.names := by rw [names_bareEntries]
        rwa [List.forall_mem_map, List.forall_mem_map] at keys
      · rw [Entries.get?_bareEntries]
        refine fill?_map_bare fun v hv => ?_
        exact readsAlike_bare_of_mem fields named.2 f hf v (distinct.entries.of_get? hv)

/-- The values of every field stand for what they stand for in no text. -/
theorem readsAlike_bare_of_mem :
    (fs : Fields) → fs.EachWellNamed → ∀ f ∈ fs.toList, ∀ v : Value, v.Distinct →
      f.2.ReadsAlike v.bare v
  | .nil, _, _, hf, _, _ => by simp [Fields.toList] at hf
  | .cons name schema rest, named, f, hf, v, distinct => by
    rcases List.mem_cons.1 hf with rfl | hf
    · exact readsAlike_bare schema named.1 v distinct
    · exact readsAlike_bare_of_mem rest named.2 f hf v distinct

end

end Schema

end GradleScript
