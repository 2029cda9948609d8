/-!
# Sets of names in order of first mention

A name set holds every name once and lists its names in the order in which they were first put
in. Two sets with the same names are alike whatever their orders.

## Main definitions

* `NameSet.insert`, `NameSet.ofList`: sets from names
* `NameSet.same`: whether two sets have the same names
-/

namespace GradleScript

/-- Distinct names in the order of their first mention. -/
@[ext] structure NameSet where
  /-- The names, first mentioned first. -/
  toList : List String
  /-- No name is listed twice. -/
  nodup : toList.Nodup
  deriving DecidableEq, Repr

namespace NameSet

/-- The set without names. -/
def empty : NameSet := ⟨[], List.nodup_nil⟩

instance : EmptyCollection NameSet := ⟨empty⟩

instance : Inhabited NameSet := ⟨∅⟩

instance : Membership String NameSet := ⟨fun s name => name ∈ s.toList⟩

instance (name : String) (s : NameSet) : Decidable (name ∈ s) :=
  inferInstanceAs (Decidable (name ∈ s.toList))

/-- Adds a name at the end, unless the set has it already. -/
def insert (s : NameSet) (name : String) : NameSet :=
  if h : name ∈ s.toList then s
  else ⟨s.toList ++ [name], by
    rw [List.nodup_append]
    refine ⟨s.nodup, by simp, fun a ha b hb e => h ?_⟩
    rwa [← List.mem_singleton.1 hb, ← e]⟩

/-- The set of the names of a list, in the order of their first mention there. -/
def ofList (names : List String) : NameSet :=
  names.foldl insert ∅

/-- Whether the set has no names. -/
def isEmpty (s : NameSet) : Bool := s.toList.isEmpty

/-- Whether two sets have the same names, in whatever orders. -/
def same (s t : NameSet) : Bool :=
  s.toList.length == t.toList.length && s.toList.all fun name => decide (name ∈ t.toList)

@[simp] theorem mem_toList {name : String} {s : NameSet} : name ∈ s.toList ↔ name ∈ s := Iff.rfl

@[simp] theorem toList_empty : (∅ : NameSet).toList = [] := rfl

theorem toList_insert (s : NameSet) (name : String) :
    (s.insert name).toList = if name ∈ s then s.toList else s.toList ++ [name] := by
  by_cases h : name ∈ s.toList <;> simp_all [insert]

theorem mem_insert {s : NameSet} {name other : String} :
    other ∈ s.insert name ↔ other ∈ s ∨ other = name := by
  rw [← mem_toList, toList_insert]
  split
  · next h => exact ⟨Or.inl, fun ho => ho.elim id fun e => e ▸ h⟩
  · simp

theorem insert_of_mem {s : NameSet} {name : String} (h : name ∈ s) : s.insert name = s := by
  ext1; simp [toList_insert, h]

theorem toList_foldl_insert {s : NameSet} {names : List String}
    (h : (s.toList ++ names).Nodup) : (names.foldl insert s).toList = s.toList ++ names := by
  induction names generalizing s with
  | nil => simp
  | cons name rest ih =>
    have new : name ∉ s := fun hm => (List.nodup_append.1 h).2.2 name hm name (by simp) rfl
    have inserted : (s.insert name).toList = s.toList ++ [name] := by
      rw [toList_insert, if_neg new]
    rw [List.foldl_cons, ih (by simpa [inserted] using h), inserted, List.append_assoc]
    rfl

@[simp] theorem ofList_toList (s : NameSet) : ofList s.toList = s :=
  NameSet.ext (toList_foldl_insert (s := ∅) s.nodup)

end NameSet

end GradleScript
