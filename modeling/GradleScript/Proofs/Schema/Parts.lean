import GradleScript.Proofs.Except
import GradleScript.Schema

/-!
# Reading part by part

An array is read item by item and a table with any keys entry by entry. What is read from one part
does not depend on the others.

## Main results

* `readItems_eq_ok_iff`: what is read from an array
* `readEntries_eq_ok_iff`: what is read from a table with any keys
-/

namespace GradleScript

open Toml

variable {α : Type} {read : Value → Except Mismatch α}

/-- Each of some options has a value if they are the options of a list of values. -/
theorem exists_eq_map_some_iff {β : Type} {options : List (Option β)} :
    (∃ bs : List β, options = bs.map some) ↔ ∀ b ∈ options, b.isSome = true := by
  constructor
  · rintro ⟨bs, rfl⟩
    simp
  · intro h
    induction options with
    | nil => exact ⟨[], rfl⟩
    | cons first rest ih =>
      rw [List.forall_mem_cons] at h
      obtain ⟨b, rfl⟩ := Option.isSome_iff_exists.1 h.1
      obtain ⟨bs, rfl⟩ := ih h.2
      exact ⟨b :: bs, rfl⟩

/-- **An array is read item by item.** -/
theorem readItems_eq_ok_iff {items : List Value} {as : List α} :
    readItems read items = .ok as ↔ items.map (fun v => (read v).toOption) = as.map some := by
  induction items generalizing as with
  | nil =>
    rw [readItems]
    cases as <;> simp
  | cons v rest ih =>
    rw [readItems, Except.bind_eq_ok_iff, List.map_cons]
    constructor
    · rintro ⟨a, ha, h⟩
      obtain ⟨others, ho, h⟩ := Except.bind_eq_ok_iff.1 h
      cases h
      rw [ha, ih.1 ho]
      rfl
    · intro h
      cases as with
      | nil => simp at h
      | cons a others =>
        obtain ⟨first, rest⟩ := List.cons.inj h
        exact ⟨a, Except.toOption_eq_some_iff.1 first,
          Except.bind_eq_ok_iff.2 ⟨others, ih.2 rest, rfl⟩⟩

/-- **A table with any keys is read entry by entry.** -/
theorem readEntries_eq_ok_iff {entries : Entries} {as : List (String × α)} :
    readEntries read entries = .ok as ↔
      entries.map (fun e => (read e.2).toOption.map (e.1.name, ·)) = as.map some := by
  induction entries generalizing as with
  | nil =>
    rw [readEntries]
    cases as <;> simp
  | cons entry rest ih =>
    obtain ⟨key, v⟩ := entry
    rw [readEntries, Except.bind_eq_ok_iff, List.map_cons]
    constructor
    · rintro ⟨a, ha, h⟩
      obtain ⟨others, ho, h⟩ := Except.bind_eq_ok_iff.1 h
      cases h
      rw [ha, ih.1 ho]
      rfl
    · intro h
      cases as with
      | nil => simp at h
      | cons a others =>
        obtain ⟨first, rest⟩ := List.cons.inj h
        obtain ⟨a, ha, rfl⟩ := Option.map_eq_some_iff.1 first
        exact ⟨a, Except.toOption_eq_some_iff.1 ha,
          Except.bind_eq_ok_iff.2 ⟨others, ih.2 rest, rfl⟩⟩

/-- What is read from a table has the keys of the table. -/
theorem map_fst_of_readEntries {entries : Entries} {as : List (String × α)}
    (h : readEntries read entries = .ok as) : as.map (·.1) = entries.map (·.1.name) := by
  induction entries generalizing as with
  | nil =>
    cases h
    rfl
  | cons entry rest ih =>
    obtain ⟨a, -, h⟩ := Except.bind_eq_ok_iff.1 h
    obtain ⟨others, ho, h⟩ := Except.bind_eq_ok_iff.1 h
    cases h
    rw [List.map_cons, List.map_cons, ih ho]

end GradleScript
