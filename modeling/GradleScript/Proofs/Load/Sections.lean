import GradleScript.Proofs.Load.Arrangement
import GradleScript.Proofs.Schema.Positional

/-!
# Sections of a document without keys

A section of a document can be a table or an array of its fields, wherever it stands. What comes of
loading the document does not depend on which of the two it is.

## Main definitions

* `Blueprint.SectionPlace`: the places where a section can stand
* `Blueprint.ListsSection`: one section is a table in one document and an array in another one
* `Blueprint.SectionsListed`: so are any number of sections

## Main results

* `Blueprint.SectionPlace.readsAlike`: a section can be exchanged for one that is read alike
* `Blueprint.ListsSection.readsAlike`: a section can be exchanged for an array of its fields
* `Blueprint.sameOutcome_of_sectionsListed`: what comes of loading a document with arrays for tables
-/

namespace GradleScript

open Toml

namespace Blueprint

/-- Documents that are read alike are read as the same blueprint. -/
theorem decode_eq_ok_iff_of_readsAlike {d d' : Value} (h : documentSchema.ReadsAlike d d')
    {b : Blueprint} : decode d = .ok b ↔ decode d' = .ok b := by
  rw [← Except.toOption_eq_some_iff, ← Except.toOption_eq_some_iff, decode, decode,
    Except.toOption_map, Except.toOption_map, h]

/-! ## Places -/

/-- A section with this schema can stand at this place; the place is given by the documents that
have one value or another there. -/
inductive SectionPlace : Schema → (Value → Value) → Prop where
  /-- The sections on the module and on the levels stand under keys of the document. -/
  | field {s : Schema} {span : Span} {origin : Origin} {front back : Entries} {key : Key}
    (isSection : (key.name, s) ∈ [("module", moduleSchema), ("sdk", sdkSchema)]) :
    SectionPlace s fun v => .table span origin (front ++ (key, v) :: back)
  /-- A build type stands under a key of its own in a table of the document. -/
  | buildType {span place : Span} {origin kind : Origin} {front back before after : Entries}
    {key name : Key} (isSection : key.name = "build-types") :
    SectionPlace buildTypeSchema fun v =>
      .table span origin (front ++ (key, .table place kind (before ++ (name, v) :: after)) :: back)
  /-- Flavors and dependencies stand in arrays of the document. -/
  | item {s : Schema} {span place : Span} {origin : Origin} {ofTables : Bool}
    {front back : Entries} {before after : List Value} {key : Key}
    (isSection : (key.name, s) ∈ [("flavors", flavorSchema), ("dependencies", dependencySchema),
      ("libraries", librarySchema)]) :
    SectionPlace s fun v =>
      .table span origin (front ++ (key, .array place ofTables (before ++ v :: after)) :: back)

theorem mem_documentFields_of_field {f : String × Schema}
    (h : f ∈ [("module", moduleSchema), ("sdk", sdkSchema)]) : f ∈ documentFields.toList := by
  simp only [List.mem_cons, List.not_mem_nil, or_false] at h
  rcases h with rfl | rfl <;> simp [documentFields, Fields.toList]

theorem mem_documentFields_of_item {name : String} {s : Schema}
    (h : (name, s) ∈ [("flavors", flavorSchema), ("dependencies", dependencySchema),
      ("libraries", librarySchema)]) : (name, Schema.list s) ∈ documentFields.toList := by
  simp only [List.mem_cons, List.not_mem_nil, or_false, Prod.mk.injEq] at h
  rcases h with ⟨rfl, rfl⟩ | ⟨rfl, rfl⟩ | ⟨rfl, rfl⟩ <;> simp [documentFields, Fields.toList]

theorem mem_documentFields_buildTypes :
    ("build-types", Schema.map buildTypeSchema) ∈ documentFields.toList := by
  simp [documentFields, Fields.toList]

namespace SectionPlace

variable {s : Schema} {put : Value → Value} {v v' : Value}

/-- The fields of a section can be told apart. -/
theorem wellNamed (h : SectionPlace s put) : s.WellNamed := by
  have each := wellNamed_documentSchema.2.of_mem
  cases h with
  | field isSection => exact each _ (mem_documentFields_of_field isSection)
  | buildType isSection => exact each _ mem_documentFields_buildTypes
  | item isSection => exact each _ (mem_documentFields_of_item isSection)

theorem distinct (h : SectionPlace s put) (distinct : (put v).Distinct) : v.Distinct := by
  cases h with
  | field isSection => exact distinct.entries.middle
  | buildType isSection => exact distinct.entries.middle.entries.middle
  | item isSection => exact distinct.entries.middle.items _ (by simp)

theorem distinct_put (h : SectionPlace s put) (distinct : (put v).Distinct)
    (distinct' : v'.Distinct) : (put v').Distinct := by
  cases h with
  | field isSection => exact (distinct.entries.replace distinct').table _ _
  | buildType isSection =>
    have types := distinct.entries.middle.entries.replace distinct'
    exact (distinct.entries.replace (types.table _ _)).table _ _
  | item isSection =>
    have items := forall_mem_middle distinct.entries.middle.items distinct'
    exact (distinct.entries.replace (.array _ _ items)).table _ _

/-- **A section can be exchanged for one that is read alike.** -/
theorem readsAlike (h : SectionPlace s put) (distinct : (put v).Distinct)
    (distinct' : v'.Distinct) (alike : s.ReadsAlike v v') :
    documentSchema.ReadsAlike (put v) (put v') := by
  have after := h.distinct_put distinct distinct'
  cases h with
  | field isSection =>
    exact Schema.readsAlike_field wellNamed_documentFields _ _
      (mem_documentFields_of_field isSection) distinct.entries after.entries alike
  | @buildType span place origin kind front back before behind key name isSection =>
    have types := Schema.readsAlike_entry place kind before behind name alike
    exact Schema.readsAlike_field wellNamed_documentFields _ _
      (isSection ▸ mem_documentFields_buildTypes) distinct.entries after.entries types
  | @item s span place origin ofTables front back before behind key isSection =>
    have items := Schema.readsAlike_item place ofTables before behind alike
    exact Schema.readsAlike_field wellNamed_documentFields _ _
      (mem_documentFields_of_item isSection) distinct.entries after.entries items

end SectionPlace

/-! ## Documents -/

/-- The documents hold the same values in other places of a text, or one section is a table in the
one and the array of its fields in the other. -/
inductive ListsSection : Value → Value → Prop where
  | move {d d' : Value} (same : d.bare = d'.bare) : ListsSection d d'
  | list {s : Schema} {put : Value → Value} {v v' : Value} (place : SectionPlace s put)
    (lists : s.ListsFields v v') : ListsSection (put v) (put v')

/-- Any number of sections are tables in the one document and arrays in the other. -/
def SectionsListed : Value → Value → Prop := Relation.ReflTransGen ListsSection

variable {d d' : Value}

/-- **A section can be exchanged for an array of its fields.** -/
theorem ListsSection.readsAlike (h : ListsSection d d') (distinct : d.Distinct) :
    d'.Distinct ∧ documentSchema.ReadsAlike d d' := by
  cases h with
  | move same =>
    have move : documentSchema.Rearranges d d' := .move same
    exact ⟨move.distinct distinct, move.readsAlike wellNamed_documentSchema distinct⟩
  | list place lists =>
    have inner := place.distinct distinct
    have inner' := lists.distinct inner
    exact ⟨place.distinct_put distinct inner',
      place.readsAlike distinct inner' (lists.readsAlike place.wellNamed inner)⟩

theorem SectionsListed.readsAlike (h : SectionsListed d d') (distinct : d.Distinct) :
    documentSchema.ReadsAlike d d' :=
  (Schema.readsAlike_of_reflTransGen (fun _ _ change => change.readsAlike) h distinct).2

/-- The document of a text has distinct keys. -/
theorem distinct_of_parse_eq_ok {text : String} (h : Document.parse text = .ok d) :
    d.Distinct := by
  obtain ⟨entries, rfl, distinct⟩ := Document.distinct_of_parse h
  exact distinct.table _ _

/-- **A section means the same as a table and as an array.** Texts whose documents have arrays in
the one where there are tables of the same fields in the other come out alike, with the same
blueprint if there is one. So do the documents themselves, if their keys are distinct. -/
theorem sameOutcome_of_sectionsListed (h : SectionsListed d d') :
    (∀ source source' : Source, Document.parse source.text = .ok d →
      Document.parse source'.text = .ok d' → SameOutcome (· = ·) (load source) (load source')) ∧
      (d.Distinct → ∀ source source',
        SameOutcome (· = ·) (loadDocument source d) (loadDocument source' d')) := by
  have outcome : d.Distinct → ∀ source source',
      SameOutcome (· = ·) (loadDocument source d) (loadDocument source' d') := by
    intro distinct
    have same {b : Blueprint} : decode d = .ok b ↔ decode d' = .ok b :=
      decode_eq_ok_iff_of_readsAlike (h.readsAlike distinct)
    apply sameOutcome_of_decode
    · intro b hb
      exact ⟨b, same.1 hb, rfl⟩
    · intro b hb
      exact ⟨b, same.2 hb⟩
    · intro b b' e
      rw [e]
  refine ⟨?_, outcome⟩
  intro source source' hp hp'
  rw [load_eq_loadDocument hp, load_eq_loadDocument hp']
  exact outcome (distinct_of_parse_eq_ok hp) source source'

/-! ### A document with tables and one with arrays -/

/-- A document with some sections, in the order of its keys. -/
def fourSections (module flavor library type : Value) : Value :=
  .ofEntries [(.ofName "module", module),
    (.ofName "sdk", .ofItems ([3, 1, 2].map fun n : Int => .scalar nowhere (.integer (some n)))),
    (.ofName "flavors", .ofItems [flavor]), (.ofName "libraries", .ofItems [library]),
    (.ofName "build-types", .ofEntries [(.ofName "q", type)])]

/-- A module that says whether data is bound, and not whether it is an application. -/
def moduleTable : Value :=
  .ofEntries [(.ofName "data-binding", .scalar nowhere (.boolean true)),
    (.ofName "path", .ofText "m"), (.ofName "package", .ofText "p")]

/-- The module as an array. The default stands in front of what is given. -/
def moduleArray : Value :=
  .ofItems [.ofText "p", .ofText "m", .scalar nowhere (.boolean false),
    .scalar nowhere (.boolean true)]

/-- A library without a method. -/
def libraryTable : Value := .ofEntries [(.ofName "coordinate", .ofText "c")]

/-- The library as an array. -/
def libraryArray : Value := .ofItems [.ofText "implementation", .ofText "c"]

/-- A flavor without a dimension. -/
def flavorTable : Value := .ofEntries [(.ofName "name", .ofText "f")]

/-- The flavor as an array. What is left out at the end is cut off. -/
def flavorArray : Value := .ofItems [.ofText "f"]

/-- The document with tables. -/
def tablesDocument : Value := fourSections moduleTable flavorTable libraryTable (.ofEntries [])

/-- The document with arrays. -/
def arraysDocument : Value := fourSections moduleArray flavorArray libraryArray (.ofItems [])

theorem sectionsListed_arraysDocument : SectionsListed tablesDocument arraysDocument := by
  have module (f l t : Value) :
      ListsSection (fourSections moduleTable f l t) (fourSections moduleArray f l t) :=
    .list (@SectionPlace.field _ _ _ [] _ (.ofName "module") (.head _))
      (.intro (by decide)
        (.given rfl (.given rfl (.default rfl rfl (.given rfl (.cutOff (by decide)))))))
  have flavor (m l t : Value) :
      ListsSection (fourSections m flavorTable l t) (fourSections m flavorArray l t) :=
    .list (@SectionPlace.item _ _ _ _ _ [_, _] _ [] [] (.ofName "flavors") (.head _))
      (.intro (by decide) (.given rfl (.cutOff (by decide))))
  have library (m f t : Value) :
      ListsSection (fourSections m f libraryTable t) (fourSections m f libraryArray t) :=
    .list (@SectionPlace.item _ _ _ _ _ [_, _, _] _ [] [] (.ofName "libraries")
        (.tail _ (.tail _ (.head _))))
      (.intro (by decide) (.default rfl rfl (.given rfl (.cutOff (by decide)))))
  have type (m f l : Value) :
      ListsSection (fourSections m f l (.ofEntries [])) (fourSections m f l (.ofItems [])) :=
    .list (@SectionPlace.buildType _ _ _ _ [_, _, _, _] [] [] [] (.ofName "build-types")
        (.ofName "q") rfl)
      (.intro (by decide) (.cutOff (by decide)))
  exact (((Relation.ReflTransGen.single (module _ _ _)).tail (flavor _ _ _)).tail
    (library _ _ _)).tail (type _ _ _)

/-- A table in braces, with its fields as they are written. -/
def inBraces (fields : String) : String := String.singleton '{' ++ fields.push '}'

/-- A text with the first document. -/
def tablesSource : Source where
  name := "module.toml"
  text := "module=" ++ inBraces "data-binding=true,path='m',package='p'" ++ "\nsdk=[3,1,2]\n" ++
    "flavors=[" ++ inBraces "name='f'" ++ "]\nlibraries=[" ++ inBraces "coordinate='c'" ++
    "]\n[build-types.q]\n"

/-- A text with the second document. -/
def arraysSource : Source where
  name := "module.toml"
  text := "module=['p','m',false,true]\nsdk=[3,1,2]\nflavors=[['f']]\n" ++
    "libraries=[['implementation','c']]\n[build-types]\nq=[]\n"

/-- Both texts are loaded as the same blueprint, and so are their documents. -/
theorem sameOutcome_of_sectionsListed_arraysSource :
    ∃ d d', Document.parse tablesSource.text = .ok d ∧
      Document.parse arraysSource.text = .ok d' ∧ SectionsListed d d' ∧
      SameOutcome (· = ·) (load tablesSource) (load arraysSource) ∧
      (load arraysSource).toOption.isSome = true ∧ d.Distinct ∧
      SameOutcome (· = ·) (loadDocument tablesSource d) (loadDocument arraysSource d') := by
  obtain ⟨d, hd, tables⟩ := exists_parse_of_bare
    (show (Document.parse tablesSource.text).toOption.map Value.bare = some tablesDocument by
      decide +kernel)
  obtain ⟨d', hd', arrays⟩ := exists_parse_of_bare
    (show (Document.parse arraysSource.text).toOption.map Value.bare = some arraysDocument by
      decide +kernel)
  have fromTables : SectionsListed d arraysDocument :=
    sectionsListed_arraysDocument.head (.move (tables.trans (by decide)))
  have listed : SectionsListed d d' :=
    Relation.ReflTransGen.tail fromTables (.move (Eq.trans (by decide) arrays.symm))
  have outcome := sameOutcome_of_sectionsListed listed
  exact ⟨d, d', hd, hd', listed, outcome.1 _ _ hd hd', by decide +kernel,
    distinct_of_parse_eq_ok hd, outcome.2 (distinct_of_parse_eq_ok hd) _ _⟩

end Blueprint

end GradleScript
