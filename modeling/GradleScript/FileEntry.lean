import GradleScript.Text.Utf8

/-!
# Files and directories

An entry of a file tree is a file or a directory, and a directory has further entries by name. A
location is the list of the names that lead to an entry, so that nothing is at a location unless a
directory is at the one in front of it.

## Main definitions

* `FileEntry.find?`: the entry at a location
* `FileEntry.put`: an entry put at a location
* `FileEntry.listed`: an entry and everything in it, as paths
-/

namespace GradleScript

/-- The names that lead to a place from a directory. -/
abbrev Location := List String

/-- A file, or a directory with the entries of its names. -/
inductive FileEntry where
  | file (content : ByteArray)
  | directory (entries : List (String × FileEntry))

/-- Entries in which a name has a new entry, in place of what it has. -/
def assign {α : Type} (name : String) (a : α) : List (String × α) → List (String × α)
  | [] => [(name, a)]
  | e :: rest => if e.1 = name then (name, a) :: rest else e :: assign name a rest

theorem lookup_cons_eq_ite {α : Type} (n : String) (e : String × α) (rest : List (String × α)) :
    (e :: rest).lookup n = if n = e.1 then some e.2 else rest.lookup n := by
  rw [List.lookup_cons]
  split <;> simp_all

theorem lookup_assign {α : Type} (n name : String) (a : α) (entries : List (String × α)) :
    (assign name a entries).lookup n = if n = name then some a else entries.lookup n := by
  induction entries with
  | nil => simp [assign, lookup_cons_eq_ite]
  | cons e rest ih =>
    rw [assign]
    by_cases he : e.1 = name
    · simp only [he, if_true, lookup_cons_eq_ite]
      split <;> rfl
    · by_cases hn : n = e.1
      · simp [he, hn, lookup_cons_eq_ite]
      · simp [he, hn, lookup_cons_eq_ite, ih]

namespace FileEntry

/-- The entry at a location. -/
def find? : FileEntry → Location → Option FileEntry
  | e, [] => some e
  | .file _, _ :: _ => none
  | .directory entries, name :: rest =>
    match entries.lookup name with
    | some inner => inner.find? rest
    | none => none

/-- The entry with a new one at a location, in place of what is there. Nothing changes unless a
directory is at the location in front of it. -/
def put (new : FileEntry) : Location → FileEntry → FileEntry
  | [], _ => new
  | _ :: _, .file content => .file content
  | name :: rest, .directory entries =>
    match rest, entries.lookup name with
    | [], _ => .directory (assign name new entries)
    | _ :: _, some inner => .directory (assign name (put new rest inner) entries)
    | _ :: _, none => .directory entries

mutual

/-- An entry and everything in it: paths with the texts of the files. The path of a directory ends
with a separator. -/
def listed (path : String) : FileEntry → List (String × Option String)
  | .file content => [(path, some (Text.ofBytes content))]
  | .directory entries => (path ++ "/", none) :: listedAll (path ++ "/") entries

/-- Everything in a directory, as paths that start with the path of the directory. -/
def listedAll (front : String) : List (String × FileEntry) → List (String × Option String)
  | [] => []
  | (name, e) :: rest => listed (front ++ name) e ++ listedAll front rest

end

@[simp] theorem find?_nil (e : FileEntry) : e.find? [] = some e := by
  cases e <;> rfl

theorem find?_cons (entries : List (String × FileEntry)) (name : String) (rest : Location) :
    (directory entries).find? (name :: rest) =
      (entries.lookup name).bind fun inner => inner.find? rest := by
  simp only [find?]
  cases entries.lookup name <;> rfl

end FileEntry

end GradleScript
