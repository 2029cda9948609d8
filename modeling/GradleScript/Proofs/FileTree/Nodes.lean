import GradleScript.FileTree

/-!
# What is at the locations of a file tree

A file tree is looked at location by location: at each there is a file with its content, a
directory, or nothing. What a directory holds shows at the locations below it. An entry that is put
into a directory changes one location.

## Main definitions

* `Node`: what can be at a location
* `FileTree.node?`, `FileTree.fileAt?`: what is at a location, and the content of the file there

## Main results

* `FileTree.node?_dropLast`: only directories hold anything
* `FileTree.node?_set`: putting an entry into a directory changes one location
-/

namespace GradleScript

/-- What can be at a location: a file with its content, or a directory. -/
inductive Node where
  | file (content : ByteArray)
  | directory

namespace FileEntry

/-- What an entry is, without what is in it. -/
def node : FileEntry → Node
  | .file content => .file content
  | .directory _ => .directory

/-- What is at a location. -/
def node? (e : FileEntry) (l : Location) : Option Node := (e.find? l).map node

variable {entries : List (String × FileEntry)} {l m : Location} {name : String}

@[simp] theorem find?_file_cons (content : ByteArray) (name : String) (l : Location) :
    (file content).find? (name :: l) = none := rfl

theorem find?_append (e : FileEntry) (l m : Location) :
    e.find? (l ++ m) = (e.find? l).bind fun inner => inner.find? m := by
  induction l generalizing e with
  | nil => simp
  | cons name l ih =>
    cases e with
    | file content => rfl
    | directory entries =>
      rw [List.cons_append, find?_cons, find?_cons]
      cases entries.lookup name with
      | none => rfl
      | some inner => exact ih inner

theorem node?_nil (e : FileEntry) : e.node? [] = some e.node := by simp [node?]

theorem node?_cons (entries : List (String × FileEntry)) (name : String) (l : Location) :
    (directory entries).node? (name :: l) =
      (entries.lookup name).bind fun inner => inner.node? l := by
  rw [node?, find?_cons]
  cases entries.lookup name <;> rfl

/-- Whatever holds something is a directory. -/
theorem node?_of_append {e : FileEntry} {n : Node} (h : e.node? (l ++ name :: m) = some n) :
    e.node? l = some .directory := by
  rw [node?, find?_append] at h
  rw [node?]
  cases hl : e.find? l with
  | none => simp [hl] at h
  | some inner =>
    cases inner with
    | file content => simp [hl] at h
    | directory entries => rfl

/-! ## Putting an entry -/

theorem put_cons (new : FileEntry) {inner : FileEntry} (hm : entries.lookup name = some inner)
    (l : Location) : put new (name :: l) (directory entries) =
      directory (assign name (put new l inner) entries) := by
  cases l with
  | nil => simp only [put]
  | cons n l => simp only [put, hm]

/-- Nothing is in the entry. -/
def IsEmpty (e : FileEntry) : Prop := ∀ name l, e.find? (name :: l) = none

theorem isEmpty_file (content : ByteArray) : (file content).IsEmpty := fun _ _ => rfl

theorem isEmpty_directory : (directory []).IsEmpty := fun _ _ => rfl

theorem IsEmpty.node?_cons {e : FileEntry} (empty : e.IsEmpty) (name : String) (l : Location) :
    e.node? (name :: l) = none := by
  rw [node?, empty]
  rfl

/-- An entry with nothing in it that is put into a directory, in place of a file or of nothing,
changes one location. -/
theorem node?_put {e new : FileEntry} (empty : new.IsEmpty) (hd : e.node? l = some .directory)
    (free : e.node? (l ++ [name]) ≠ some .directory) (m : Location) :
    (put new (l ++ [name]) e).node? m = if m = l ++ [name] then some new.node else e.node? m := by
  -- along the way to the directory; the location that is looked at need not be on it
  induction l generalizing e m with
  | nil =>
    cases e with
    | file content => simp [node?_nil, node] at hd
    | directory entries =>
      rw [List.nil_append] at free ⊢
      rw [put]
      cases m with
      | nil => rfl
      | cons n m =>
        rw [node?_cons, node?_cons, lookup_assign]
        by_cases hn : n = name
        · subst hn
          cases m with
          | nil => simp [node?_nil]
          | cons k m =>
            have nothing : ((entries.lookup n).bind fun inner => inner.node? (k :: m)) = none := by
              rw [node?_cons] at free
              cases hi : entries.lookup n with
              | none => rfl
              | some inner =>
                cases inner with
                | file content => rfl
                | directory entries => simp [hi, node?_nil, node] at free
            simp [nothing, empty.node?_cons]
        · simp [hn]
  | cons first l ih =>
    cases e with
    | file content => simp [node?] at hd
    | directory entries =>
      rw [List.cons_append] at free ⊢
      rw [node?_cons] at hd free
      obtain ⟨inner, hi, within⟩ := Option.bind_eq_some_iff.1 hd
      rw [hi, Option.bind_some] at free
      rw [put_cons new hi]
      cases m with
      | nil => rfl
      | cons n m =>
        rw [node?_cons, node?_cons, lookup_assign]
        by_cases hn : n = first
        · subst hn
          rw [if_pos rfl, Option.bind_some, ih within free, hi, Option.bind_some]
          simp
        · simp [hn]

/-- A directory stays one when something is put into it. -/
theorem exists_directory_of_put (new : FileEntry) (first : String) (l : Location)
    (entries : List (String × FileEntry)) :
    ∃ entries', put new (first :: l) (directory entries) = directory entries' := by
  cases l with
  | nil => exact ⟨_, rfl⟩
  | cons n l =>
    simp only [put]
    cases entries.lookup first with
    | none => exact ⟨_, rfl⟩
    | some inner => exact ⟨_, rfl⟩

end FileEntry

namespace FileTree

variable {t : FileTree} {l m : Location} {name : String}

/-- What is at a location. -/
def node? (t : FileTree) (l : Location) : Option Node := (t.find? l).map FileEntry.node

/-- The content of the file at a location. -/
def fileAt? (t : FileTree) (l : Location) : Option ByteArray :=
  match t.node? l with
  | some (.file content) => some content
  | _ => none

theorem find?_eq_none_iff : t.find? l = none ↔ t.node? l = none := by
  rw [node?, Option.map_eq_none_iff]

theorem node?_eq_file_iff {content : ByteArray} :
    t.node? l = some (.file content) ↔ t.find? l = some (.file content) := by
  rw [node?]
  cases t.find? l with
  | none => simp
  | some e => cases e <;> simp [FileEntry.node]

theorem node?_eq_directory_iff :
    t.node? l = some .directory ↔ ∃ entries, t.find? l = some (.directory entries) := by
  rw [node?]
  cases t.find? l with
  | none => simp
  | some e => cases e <;> simp [FileEntry.node]

/-- The directory of a directory is one. The root is its own. -/
theorem node?_dropLast (h : t.node? l = some .directory) :
    t.node? l.dropLast = some .directory := by
  rcases List.eq_nil_or_concat l with rfl | ⟨l, name, rfl⟩
  · exact h
  · rw [List.concat_eq_append] at h ⊢
    rw [List.dropLast_concat]
    exact FileEntry.node?_of_append h

@[simp] theorem current_set (t : FileTree) (l : Location) (e : FileEntry) :
    (t.set l e).current = t.current := by
  rw [set]
  split <;> rfl

/-- **Putting an entry into a directory changes one location.** There was a file or nothing, and
nothing is in the entry. -/
theorem node?_set {e : FileEntry} (empty : e.IsEmpty) (hd : t.node? l = some .directory)
    (free : t.node? (l ++ [name]) ≠ some .directory) (m : Location) :
    (t.set (l ++ [name]) e).node? m = if m = l ++ [name] then some e.node else t.node? m := by
  have put := FileEntry.node?_put (e := .directory t.root) empty hd free m
  have directory : ∃ root, FileEntry.put e (l ++ [name]) (.directory t.root) = .directory root := by
    cases l with
    | nil => exact FileEntry.exists_directory_of_put e name [] t.root
    | cons first l => exact FileEntry.exists_directory_of_put e first (l ++ [name]) t.root
  obtain ⟨root, hr⟩ := directory
  rw [hr] at put
  rw [set, hr]
  exact put

theorem fileAt?_eq_some_iff {content : ByteArray} :
    t.fileAt? l = some content ↔ t.node? l = some (.file content) := by
  rw [fileAt?]
  cases t.node? l with
  | none => simp
  | some n => cases n <;> simp

theorem fileAt?_congr {t' : FileTree} (h : t'.node? l = t.node? l) :
    t'.fileAt? l = t.fileAt? l := by
  rw [fileAt?, fileAt?, h]

end FileTree

end GradleScript
