import GradleScript.Proofs.FileTree.Growth

/-!
# Overwriting files

A file that is there already can be written again, and then nothing else in the tree moves: it does
not matter what was written to the same place before, nor in which order two places are written to,
and a file that is written as it is leaves the tree as it is. All this holds of the tree itself and
not only of what is found in it.

## Main definitions

* `FileTree.Keeps`: directories stay directories, and files stay files

## Main results

* `FileTree.set_set`, `FileTree.set_comm`, `FileTree.set_of_fileAt?`: the laws of overwriting
* `FileTree.write_again`: a file that has been written can be written again
-/

namespace GradleScript

/-! ## Entries by name -/

section Assign

variable {α : Type} {name other : String} {a b : α} {entries : List (String × α)}

theorem assign_assign (name : String) (a b : α) (entries : List (String × α)) :
    assign name b (assign name a entries) = assign name b entries := by
  induction entries with
  | nil => simp [assign]
  | cons e rest ih =>
    by_cases h : e.1 = name
    · simp [assign, h]
    · simp [assign, h, ih]

theorem assign_of_lookup (h : entries.lookup name = some a) : assign name a entries = entries := by
  induction entries with
  | nil => simp at h
  | cons e rest ih =>
    rw [lookup_cons_eq_ite] at h
    by_cases he : name = e.1
    · rw [if_pos he] at h
      cases h
      rw [assign, if_pos he.symm, he]
    · rw [if_neg he] at h
      rw [assign, if_neg (Ne.symm he), ih h]

/-- Two names can be assigned in either order if one of them is there; otherwise the order would
show in the order of the entries. -/
theorem assign_comm (ne : name ≠ other) (h : entries.lookup name = some a) (a' b : α) :
    assign name a' (assign other b entries) = assign other b (assign name a' entries) := by
  induction entries with
  | nil => simp at h
  | cons e rest ih =>
    rw [lookup_cons_eq_ite] at h
    by_cases he : name = e.1
    · subst he
      simp [assign, ne]
    · rw [if_neg he] at h
      by_cases ho : e.1 = other
      · simp [assign, ho, Ne.symm ne]
      · simp [assign, ho, Ne.symm he, ih h]

end Assign

/-! ## Entries by location -/

namespace FileEntry

variable {e new a b : FileEntry} {l m : Location}

/-- An entry that is put in place of another one leaves no trace of it. -/
theorem put_put (a b : FileEntry) (l : Location) (e : FileEntry) :
    put b l (put a l e) = put b l e := by
  induction l generalizing e with
  | nil => rfl
  | cons name l ih =>
    cases e with
    | file content => rfl
    | directory entries =>
      cases hm : entries.lookup name with
      | none =>
        cases l with
        | nil => simp only [put, assign_assign]
        | cons n l => simp only [put, hm]
      | some inner =>
        have there : (assign name (put a l inner) entries).lookup name = some (put a l inner) := by
          rw [lookup_assign, if_pos rfl]
        rw [put_cons a hm, put_cons b there, put_cons b hm, assign_assign, ih]

theorem put_of_find? (h : e.find? l = some new) : put new l e = e := by
  induction l generalizing e with
  | nil =>
    rw [find?_nil] at h
    exact (Option.some.inj h).symm
  | cons name l ih =>
    cases e with
    | file content => simp at h
    | directory entries =>
      rw [find?_cons] at h
      obtain ⟨inner, hm, within⟩ := Option.bind_eq_some_iff.1 h
      rw [put_cons new hm, ih within, assign_of_lookup hm]

/-- Files at two locations can be replaced in either order. -/
theorem put_comm {c d : ByteArray} (hl : e.find? l = some (file c)) (hm : e.find? m = some (file d))
    (ne : l ≠ m) (a b : FileEntry) : put a l (put b m e) = put b m (put a l e) := by
  -- along the way that the locations share; none of them ends on it, since files hold nothing
  induction l generalizing e m with
  | nil =>
    rw [find?_nil] at hl
    cases hl
    cases m with
    | nil => exact absurd rfl ne
    | cons y m => simp at hm
  | cons x l ih =>
    cases e with
    | file content => simp at hl
    | directory entries =>
      rw [find?_cons] at hl
      obtain ⟨ex, hx, withinx⟩ := Option.bind_eq_some_iff.1 hl
      cases m with
      | nil => simp at hm
      | cons y m =>
        rw [find?_cons] at hm
        obtain ⟨ey, hy, withiny⟩ := Option.bind_eq_some_iff.1 hm
        by_cases same : x = y
        · subst same
          obtain rfl : ex = ey := Option.some.inj (hx.symm.trans hy)
          have there (new : FileEntry) : (assign x new entries).lookup x = some new := by
            rw [lookup_assign, if_pos rfl]
          rw [put_cons a hx, put_cons b hx, put_cons a (there _), put_cons b (there _),
            assign_assign, assign_assign, ih withinx withiny (fun h => ne (by rw [h]))]
        · have hx' (new : FileEntry) : (assign y new entries).lookup x = some ex := by
            rw [lookup_assign, if_neg same, hx]
          have hy' (new : FileEntry) : (assign x new entries).lookup y = some ey := by
            rw [lookup_assign, if_neg (Ne.symm same), hy]
          rw [put_cons a hx, put_cons b hy, put_cons a (hx' _), put_cons b (hy' _),
            assign_comm same hx]

end FileEntry

/-! ## Trees -/

namespace FileTree

variable {t t' t₁ : FileTree} {l m : Location} {c d : ByteArray} {path text : String}

theorem ext_root (current : t.current = t'.current)
    (root : FileEntry.directory t.root = .directory t'.root) : t = t' := by
  cases t
  cases t'
  cases current
  cases root
  rfl

/-- A file is not the root. -/
theorem ne_nil_of_fileAt? (h : t.fileAt? l = some c) : l ≠ [] := by
  rintro rfl
  have there := node?_eq_file_iff.1 (fileAt?_eq_some_iff.1 h)
  simp at there

/-- What is put below the root leaves it a directory. -/
theorem directory_root_set (ne : l ≠ []) (t : FileTree) (e : FileEntry) :
    FileEntry.directory (t.set l e).root = e.put l (.directory t.root) := by
  obtain ⟨first, others, rfl⟩ := List.exists_cons_of_ne_nil ne
  obtain ⟨root, hr⟩ := FileEntry.exists_directory_of_put e first others t.root
  rw [set, hr]

/-- What was at a location before the last write leaves no trace. -/
theorem set_set (ne : l ≠ []) (t : FileTree) (a b : FileEntry) :
    (t.set l a).set l b = t.set l b := by
  refine ext_root (by simp) ?_
  rw [directory_root_set ne, directory_root_set ne, directory_root_set ne, FileEntry.put_put]

/-- Files at two locations can be replaced in either order. -/
theorem set_comm (hl : t.fileAt? l = some c) (hm : t.fileAt? m = some d) (ne : l ≠ m)
    (a b : FileEntry) : (t.set l a).set m b = (t.set m b).set l a := by
  have hl' := node?_eq_file_iff.1 (fileAt?_eq_some_iff.1 hl)
  have hm' := node?_eq_file_iff.1 (fileAt?_eq_some_iff.1 hm)
  refine ext_root (by simp) ?_
  rw [directory_root_set (ne_nil_of_fileAt? hl), directory_root_set (ne_nil_of_fileAt? hm),
    directory_root_set (ne_nil_of_fileAt? hl), directory_root_set (ne_nil_of_fileAt? hm)]
  exact (FileEntry.put_comm hl' hm' ne a b).symm

/-- A file that is replaced by itself leaves the tree as it is. -/
theorem set_of_fileAt? (h : t.fileAt? l = some c) : t.set l (.file c) = t := by
  refine ext_root (by simp) ?_
  rw [directory_root_set (ne_nil_of_fileAt? h)]
  exact FileEntry.put_of_find? (node?_eq_file_iff.1 (fileAt?_eq_some_iff.1 h))

/-- A file that is replaced by another one. -/
theorem writes_set_of_fileAt? (h : t.fileAt? l = some c) (content : ByteArray) :
    t.Writes l content (t.set l (.file content)) := by
  have there := fileAt?_eq_some_iff.1 h
  obtain ⟨front, name, rfl⟩ := (List.eq_nil_or_concat l).resolve_left (ne_nil_of_fileAt? h)
  rw [List.concat_eq_append] at there ⊢
  exact writes_set (FileEntry.node?_of_append (e := .directory t.root) there) (by simp [there]) _

/-! ## Writing again -/

/-- Directories stay directories, and files stay files, whatever their contents. -/
structure Keeps (t t' : FileTree) : Prop extends t.Grows t' where
  file : ∀ l, (t.fileAt? l).isSome = true → (t'.fileAt? l).isSome = true

namespace Keeps

theorem refl (t : FileTree) : t.Keeps t := ⟨.refl t, fun _ h => h⟩

theorem trans {t'' : FileTree} (h : t.Keeps t') (h' : t'.Keeps t'') : t.Keeps t'' :=
  ⟨h.toGrows.trans h'.toGrows, fun l hl => h'.file l (h.file l hl)⟩

/-- Files are no directories, now or later. -/
theorem not_directory (h : t.Keeps t') (hl : t.fileAt? l = some c) :
    t'.node? l ≠ some .directory := by
  obtain ⟨d, hd⟩ := Option.isSome_iff_exists.1 (h.file l (by simp [hl]))
  simp [fileAt?_eq_some_iff.1 hd]

end Keeps

theorem AddsDirectories.keeps (h : t.AddsDirectories t') : t.Keeps t' :=
  ⟨h.grows, fun l hl => by rwa [h.fileAt?]⟩

theorem Writes.keeps {content : ByteArray} (h : t.Writes l content t') : t.Keeps t' := by
  refine ⟨h.grows, fun m hm => ?_⟩
  rw [h.fileAt?]
  split
  · rfl
  · exact hm

/-- A way to a last step leads there later on. -/
theorem Grows.walkToLast {s : Option PathStep} (h : t.Grows t')
    (hw : t.walkToLast path = .ok (l, s)) : t'.walkToLast path = .ok (l, s) := by
  obtain ⟨wellFormed, walked, directory, last⟩ := walkToLast_eq_ok_iff.1 hw
  rw [← start_congr rfl h.current] at walked
  exact walkToLast_eq_ok_iff.2 ⟨wellFormed, h.walkFrom walked, h.directory l directory, last⟩

/-- **A file that has been written can be written again**, and the text takes the place of what is
there now. -/
theorem write_again (h : t.write path text = .ok t₁) (keeps : t₁.Keeps t') :
    ∃ l, t₁.walk path = .ok l ∧ t₁.fileAt? l = some text.toUTF8 ∧
      t'.write path text = .ok (t'.set l (.file text.toUTF8)) := by
  obtain ⟨l, name, walked, noSlash, short, free, rfl⟩ := write_eq_ok_iff.1 h
  obtain ⟨directory, walk⟩ := walk_of_walkToLast walked short
  have writes := writes_set directory free text.toUTF8
  have there := (writes.fileAt? (l ++ [name])).trans (if_pos rfl)
  refine ⟨l ++ [name], writes.grows.walk walk, there, ?_⟩
  exact write_eq_ok_iff.2 ⟨l, name, (writes.grows.trans keeps.toGrows).walkToLast walked, noSlash,
    short, keeps.not_directory there, rfl⟩

end FileTree

end GradleScript
