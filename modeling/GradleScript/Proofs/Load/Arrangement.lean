import GradleScript.Proofs.Load.Stages
import GradleScript.Proofs.Schema.Arrangement
import GradleScript.Proofs.Schema.Parts

/-!
# Loading does not depend on arrangement

What comes of loading a document depends neither on the order of its keys nor on whether optional
ones are written out. There is one table of which the order counts: that of the build types, which
the blueprint lists in the order of their keys.

## Main definitions

* `Blueprint.loadDocument`: what comes of loading a document that has been parsed
* `SameOutcome`: two ways in which loading comes out alike
* `Blueprint.BuildTypesReordered`: blueprints that differ in the order of their build types

## Main results

* `Blueprint.sameOutcome_of_decode`: documents that are read alike come out alike
* `Blueprint.ReordersBuildTypes.exists_decode`: reading a document with its build types in another
  order
* `Blueprint.sameOutcome_of_rearranged`: what comes of loading a document after rearranging it
-/

namespace GradleScript

open Toml

/-! ## Outcomes -/

/-- Loading comes out alike: with related blueprints, or with documents that both do not fit the
schema, or with blueprints that break the same rule. -/
inductive SameOutcome (R : Blueprint → Blueprint → Prop) :
    Except LoadError Blueprint → Except LoadError Blueprint → Prop where
  | loaded {b b' : Blueprint} (related : R b b') : SameOutcome R (.ok b) (.ok b')
  | unfit (source source' : Source) (mismatch mismatch' : Mismatch) :
    SameOutcome R (.error (.unfit source mismatch)) (.error (.unfit source' mismatch'))
  | invalid (source source' : Source) (violation : Violation) (span span' : Option Span) :
    SameOutcome R (.error (.invalid source violation span))
      (.error (.invalid source' violation span'))

namespace Blueprint

/-- What comes of loading a document that has been parsed. -/
def loadDocument (source : Source) (document : Value) : Except LoadError Blueprint :=
  match decode document with
  | .error mismatch => .error (.unfit source mismatch)
  | .ok b =>
    match b.violation? with
    | some (violation, key) => .error (.invalid source violation (keySpan? source.text key))
    | none => .ok b

theorem load_eq_loadDocument {source : Source} {document : Value}
    (h : Document.parse source.text = .ok document) :
    load source = loadDocument source document := by
  simp only [load, h]
  rfl

/-- Documents that are read alike come out alike, if no rule tells their blueprints apart. -/
theorem sameOutcome_of_decode {R : Blueprint → Blueprint → Prop} {d d' : Value}
    (forth : ∀ b, decode d = .ok b → ∃ b', decode d' = .ok b' ∧ R b b')
    (back : ∀ b', decode d' = .ok b' → ∃ b, decode d = .ok b)
    (rules : ∀ b b', R b b' → b'.violation? = b.violation?) (source source' : Source) :
    SameOutcome R (loadDocument source d) (loadDocument source' d') := by
  rw [loadDocument, loadDocument]
  cases hd : decode d with
  | error mismatch =>
    cases hd' : decode d' with
    | error mismatch' => exact .unfit ..
    | ok b' =>
      obtain ⟨b, hb⟩ := back b' hd'
      rw [hd] at hb
      cases hb
  | ok b =>
    obtain ⟨b', hd', related⟩ := forth b hd
    rw [hd']
    simp only [rules b b' related]
    cases b.violation? with
    | none => exact .loaded related
    | some v => exact .invalid ..

end Blueprint

/-! ## Build types -/

/-- The build type of a key and its value, if they are read as one. -/
def BuildType.ofKey? (e : Key × Value) : Option BuildType :=
  (buildTypeSchema.decode e.2).toOption.map fun fields => .ofEntry (e.1.name, fields)

namespace Blueprint

/-- The blueprints list the build types of the one and of the other table in their order, and agree
on all else. -/
structure BuildTypesReordered (types types' : Entries) (b b' : Blueprint) : Prop where
  buildTypes : b.buildTypes.map some = types.map BuildType.ofKey?
  buildTypes' : b'.buildTypes.map some = types'.map BuildType.ofKey?
  others : b' = { b with buildTypes := b'.buildTypes }

/-- The section on build types is read entry by entry. -/
theorem decode_buildTypes_eq_ok_iff {types : Entries} (span : Span) (origin : Origin)
    {sections : List (String × buildTypeSchema.Carrier)} :
    (Schema.map buildTypeSchema).decode (.table span origin types) = .ok sections ↔
      types.map (fun e => (buildTypeSchema.decode e.2).toOption.map (e.1.name, ·)) =
        sections.map some := by
  have entries : readEntries buildTypeSchema.decode types = .ok sections ↔ _ :=
    readEntries_eq_ok_iff
  exact entries

/-- The build types of a blueprint are those of the entries of their section. -/
theorem map_ofEntry_eq {types : Entries} {sections : List (String × buildTypeSchema.Carrier)}
    (h : types.map (fun e => (buildTypeSchema.decode e.2).toOption.map (e.1.name, ·)) =
      sections.map some) :
    (sections.map BuildType.ofEntry).map some = types.map BuildType.ofKey? := by
  have mapped := congrArg (List.map (Option.map BuildType.ofEntry)) h
  rw [List.map_map, List.map_map] at mapped
  rw [List.map_map]
  refine Eq.trans mapped.symm (List.map_congr_left fun e _ => ?_)
  simp [BuildType.ofKey?, Function.comp_def]

/-- Entries can be read in any order. -/
theorem exists_decode_buildTypes_of_perm {types types' : Entries} (perm : types.Perm types')
    (span : Span) (origin : Origin)
    {sections : List (String × buildTypeSchema.Carrier)}
    (h : (Schema.map buildTypeSchema).decode (.table span origin types) = .ok sections) :
    ∃ sections' : List (String × buildTypeSchema.Carrier),
      (Schema.map buildTypeSchema).decode (.table span origin types') = .ok sections' ∧
        (sections.map BuildType.ofEntry).map some = types.map BuildType.ofKey? ∧
        (sections'.map BuildType.ofEntry).map some = types'.map BuildType.ofKey? := by
  have each := (decode_buildTypes_eq_ok_iff span origin).1 h
  have all := exists_eq_map_some_iff.1 ⟨sections, each⟩
  obtain ⟨sections', each'⟩ := exists_eq_map_some_iff.2 fun b hb =>
    all b ((perm.map _).mem_iff.2 hb)
  exact ⟨sections', (decode_buildTypes_eq_ok_iff span origin).2 each',
    map_ofEntry_eq each, map_ofEntry_eq each'⟩

/-- Sections with the build types in another slot stand for a blueprint with other build types. -/
theorem fill?_documentFields_of_buildTypes {slots slots' : Nat → Option Value}
    (same : ∀ i, i ≠ 5 → slots' i = slots i) {values : documentFields.Carrier}
    (h : documentFields.fill? slots = some values) :
    ∃ sections : List (String × buildTypeSchema.Carrier),
      (Schema.map buildTypeSchema).fill? (slots 5) = some sections ∧
        (ofDocument values).buildTypes = sections.map BuildType.ofEntry ∧
        ∀ sections' : List (String × buildTypeSchema.Carrier),
          (Schema.map buildTypeSchema).fill? (slots' 5) = some sections' →
            ∃ values', documentFields.fill? slots' = some values' ∧ ofDocument values' =
              { ofDocument values with buildTypes := sections'.map BuildType.ofEntry } := by
  obtain ⟨plugins, dimensions, extraLines, module, sdk, types, flavors, dependencies, libraries,
    ⟨⟩⟩ := values
  obtain ⟨h₀, h₁, h₂, h₃, h₄, h₅, h₆, h₇, h₈⟩ := fill?_documentFields_eq_some_iff.1 h
  refine ⟨types, h₅, rfl, fun types' h₅' => ?_⟩
  refine ⟨(plugins, dimensions, extraLines, module, sdk, types', flavors, dependencies, libraries,
    ()), fill?_documentFields_eq_some_iff.2 ?_, rfl⟩
  rw [same 0 (by decide), same 1 (by decide), same 2 (by decide), same 3 (by decide),
    same 4 (by decide), same 6 (by decide), same 7 (by decide), same 8 (by decide)]
  exact ⟨h₀, h₁, h₂, h₃, h₄, h₅', h₆, h₇, h₈⟩

/-- The documents differ in the order of the keys of the section on build types. -/
inductive ReordersBuildTypes (types types' : Entries) : Value → Value → Prop where
  | intro {span place : Span} {origin kind : Origin} {front back : Entries} {key : Key}
    (isSection : key.name = "build-types") (perm : types.Perm types') :
    ReordersBuildTypes types types'
      (.table span origin (front ++ (key, .table place kind types) :: back))
      (.table span origin (front ++ (key, .table place kind types') :: back))

variable {types types' : Entries} {d d' : Value}

theorem ReordersBuildTypes.symm (h : ReordersBuildTypes types types' d d') :
    ReordersBuildTypes types' types d' d := by
  cases h with
  | intro isSection perm => exact .intro isSection perm.symm

theorem ReordersBuildTypes.distinct (h : ReordersBuildTypes types types' d d')
    (distinct : d.Distinct) : d'.Distinct := by
  cases h with
  | intro isSection perm =>
    have inner := distinct.entries.middle.entries
    exact (distinct.entries.replace ((inner.of_perm perm).table _ _)).table _ _

/-- The document has the section on build types in its slot, and the other slots do not see it. -/
theorem ReordersBuildTypes.slots (h : ReordersBuildTypes types types' d d')
    (distinct : d.Distinct) {slots : Nat → Option Value}
    (hs : d.slots? documentFields.names = some slots) :
    ∃ slots' place kind, d'.slots? documentFields.names = some slots' ∧
      slots 5 = some (.table place kind types) ∧ slots' 5 = some (.table place kind types') ∧
      ∀ i, i ≠ 5 → slots' i = slots i := by
  have distinct' := h.distinct distinct
  cases h with
  | @intro span place origin kind front back key isSection perm =>
    have index : documentFields.names[5]? = some key.name := by
      rw [isSection]
      rfl
    rw [Value.slots?] at hs
    split at hs
    · next known =>
      cases hs
      have known' : ∀ e ∈ front ++ (key, Value.table place kind types') :: back,
          e.1.name ∈ documentFields.names := by
        rw [List.forall_mem_append, List.forall_mem_cons] at known ⊢
        exact known
      refine ⟨_, place, kind, if_pos known', ?_, ?_, fun i hi => ?_⟩
      · simp only [index, Option.bind_some, distinct.entries.get?_middle]
      · simp only [index, Option.bind_some, distinct'.entries.get?_middle]
      · cases hn : documentFields.names[i]? with
        | none => simp only [hn, Option.bind_none]
        | some name =>
          have ne : key.name ≠ name := by
            rintro rfl
            obtain ⟨hl, -⟩ := List.getElem?_eq_some_iff.1 hn
            exact hi ((List.getElem?_inj hl wellNamed_documentFields.nodup).1 (hn.trans index.symm))
          simp only [hn, Option.bind_some, Entries.get?_middle_of_ne ne]
    · cases hs

/-- **A document with its build types in another order** is read as a blueprint with its build types
in that order. -/
theorem ReordersBuildTypes.exists_decode (h : ReordersBuildTypes types types' d d')
    (distinct : d.Distinct) {b : Blueprint} (hd : decode d = .ok b) :
    ∃ b', decode d' = .ok b' ∧ BuildTypesReordered types types' b b' := by
  obtain ⟨slots, values, hs, filled, rfl⟩ := exists_slots_of_decode distinct hd
  obtain ⟨slots', place, kind, hs', slot, slot', same⟩ := h.slots distinct hs
  obtain ⟨sections, read, listed, other⟩ := fill?_documentFields_of_buildTypes same filled
  rw [slot] at read
  have perm : types.Perm types' := by
    cases h with
    | intro isSection perm => exact perm
  obtain ⟨sections', read', before, after⟩ := exists_decode_buildTypes_of_perm perm place kind
    (Except.toOption_eq_some_iff.1 read)
  have filled' : (Schema.map buildTypeSchema).fill? (slots' 5) = some sections' := by
    rw [slot']
    exact Except.toOption_eq_some_iff.2 read'
  obtain ⟨values', hv, e⟩ := other sections' filled'
  have decoded : (documentSchema.decode d').toOption = some values' := by
    refine (Schema.toOption_decode_record wellNamed_documentFields (h.distinct distinct)).trans ?_
    rw [hs', Option.bind_some, hv]
  refine ⟨ofDocument values', ?_, ?_, ?_, ?_⟩
  · rw [decode, Except.toOption_eq_some_iff.1 decoded]
    rfl
  · rw [listed, before]
  · rw [e, after]
  · rw [e]

/-! ## Arrangements -/

/-- The fields of each section can be told apart. -/
theorem wellNamed_documentSchema : documentSchema.WellNamed := by
  refine ⟨wellNamed_documentFields, ?_⟩
  simp only [documentFields, Fields.EachWellNamed, Schema.WellNamed, moduleSchema, sdkSchema,
    buildTypeSchema, flavorSchema, dependencySchema, librarySchema, and_true, true_and]
  decide

/-- **Loading a document does not depend on its arrangement.** Documents that are rearrangements of
each other come out alike, with the same blueprint if there is one; so do their texts. Reordering
the keys of the section on build types reorders the build types in the same way and changes nothing
else. -/
theorem sameOutcome_of_rearranged (distinct : d.Distinct) (h : documentSchema.Rearranged d d') :
    (∀ source source', SameOutcome (· = ·) (loadDocument source d) (loadDocument source' d')) ∧
      (∀ source source' : Source, Document.parse source.text = .ok d →
        Document.parse source'.text = .ok d' → SameOutcome (· = ·) (load source) (load source')) ∧
      ∀ types types' d'', ReordersBuildTypes types types' d' d'' →
        ∀ source source', SameOutcome (BuildTypesReordered types types') (loadDocument source d)
          (loadDocument source' d'') := by
  have alike : (decode d).toOption = (decode d').toOption := by
    rw [decode, decode, Except.toOption_map, Except.toOption_map,
      h.readsAlike wellNamed_documentSchema distinct]
  have forth : ∀ b, decode d = .ok b → decode d' = .ok b := by
    intro b hb
    rw [← Except.toOption_eq_some_iff, ← alike, hb]
    rfl
  have back : ∀ b, decode d' = .ok b → decode d = .ok b := by
    intro b hb
    rw [← Except.toOption_eq_some_iff, alike, hb]
    rfl
  have outcome : ∀ source source',
      SameOutcome (· = ·) (loadDocument source d) (loadDocument source' d') :=
    sameOutcome_of_decode (fun b hb => ⟨b, forth b hb, rfl⟩) (fun b hb => ⟨b, back b hb⟩)
      fun b b' e => by rw [e]
  refine ⟨outcome, ?_, ?_⟩
  · intro source source' hp hp'
    rw [load_eq_loadDocument hp, load_eq_loadDocument hp']
    exact outcome source source'
  · intro types types' d'' reorders
    have distinct' := h.distinct distinct
    refine sameOutcome_of_decode (fun b hb => reorders.exists_decode distinct' (forth b hb)) ?_ ?_
    · intro b'' hb''
      obtain ⟨b, hb, -⟩ := reorders.symm.exists_decode (reorders.distinct distinct') hb''
      exact ⟨b, back b hb⟩
    · rintro b b' ⟨-, -, e⟩
      rw [e]
      rfl

/-- The defaults that can be written out at the root of a document. -/
example : documentFields.toList.filterMap (fun f => f.2.written?.map (f.1, ·)) =
    [("plugins", .ofItems []), ("flavor-dimensions", .ofItems []), ("extra-lines", .ofItems []),
      ("build-types", .ofEntries []), ("flavors", .ofItems []), ("dependencies", .ofItems []),
      ("libraries", .ofItems [])] := rfl

/-- Those in the section on the module, in one on a dependency and in a build type. -/
example : (Schema.flag.written?, (Schema.text (some defaultMethod)).written?,
    (Schema.text (some "")).written?) =
      (some (.scalar nowhere (.boolean false)), some (.ofText "implementation"),
        some (.ofText "")) := rfl

/-! ### A document and an arrangement of it -/

/-- The levels of a document. -/
def levelsEntry : Key × Value :=
  (.ofName "sdk", .ofItems ([30, 21, 30].map fun n : Int => .scalar nowhere (.integer (some n))))

/-- The section on a module, with some options between its path and its package. -/
def moduleEntry (options : Entries) : Key × Value :=
  (.ofName "module", .ofEntries ((.ofName "path", .ofText "app") ::
    (options ++ [(.ofName "package", .ofText "com.app")])))

/-- A build type with some options, and one without any. -/
def twoTypes (options : Entries) : Entries :=
  [(.ofName "qa", .ofEntries options), (.ofName "beta", .ofEntries [])]

/-- The section on some build types. -/
def typesEntry (types : Entries) : Key × Value := (.ofName "build-types", .ofEntries types)

/-- A document without any option. -/
def shortDocument : Value := .ofEntries [levelsEntry, typesEntry (twoTypes []), moduleEntry []]

/-- The document in another order and with options, but for those of its build types. -/
def longDocument (types : Entries) : Value :=
  .ofEntries [(.ofName "plugins", .ofItems []), levelsEntry,
    moduleEntry [(.ofName "application", .scalar nowhere (.boolean false))], typesEntry types]

/-- The option of a build type. -/
def bodyEntry : Key × Value := (.ofName "body", .ofText "")

theorem rearranged_longDocument :
    documentSchema.Rearranged shortDocument (longDocument (twoTypes [bodyEntry])) := by
  have order : documentSchema.Rearranges shortDocument
      (.ofEntries [levelsEntry, moduleEntry [], typesEntry (twoTypes [])]) :=
    .reorder (.cons _ (.swap _ _ _))
  have plugins : documentSchema.Rearranges
      (.ofEntries [levelsEntry, moduleEntry [], typesEntry (twoTypes [])])
      (.ofEntries [(.ofName "plugins", .ofItems []), levelsEntry, moduleEntry [],
        typesEntry (twoTypes [])]) :=
    @Schema.Rearranges.addDefault _ documentFields _ _ []
      [levelsEntry, moduleEntry [], typesEntry (twoTypes [])] _ .names _ (.head _) rfl (by decide)
  have application : documentSchema.Rearranges
      (.ofEntries [(.ofName "plugins", .ofItems []), levelsEntry, moduleEntry [],
        typesEntry (twoTypes [])])
      (longDocument (twoTypes [])) :=
    @Schema.Rearranges.inField _ documentFields _ _ [(.ofName "plugins", .ofItems []), levelsEntry]
      [typesEntry (twoTypes [])] (.ofName "module") moduleSchema _ _
      (.tail _ (.tail _ (.tail _ (.head _))))
      (@Schema.Rearranges.addDefault _ _ _ _ [(.ofName "path", .ofText "app")]
        [(.ofName "package", .ofText "com.app")] (.ofName "application") .flag _
        (.tail _ (.tail _ (.head _))) rfl (by decide))
  have body : documentSchema.Rearranges (longDocument (twoTypes []))
      (longDocument (twoTypes [bodyEntry])) :=
    @Schema.Rearranges.inField _ documentFields _ _
      [(.ofName "plugins", .ofItems []), levelsEntry,
        moduleEntry [(.ofName "application", .scalar nowhere (.boolean false))]]
      [] (.ofName "build-types") (.map buildTypeSchema) _ _
      (.tail _ (.tail _ (.tail _ (.tail _ (.tail _ (.head _))))))
      (@Schema.Rearranges.inEntry buildTypeSchema _ _ [] [(.ofName "beta", .ofEntries [])]
        (.ofName "qa") _ _
        (@Schema.Rearranges.addDefault _ _ _ _ [] [] (.ofName "body") (.text (some "")) _ (.head _)
          rfl (by decide)))
  exact (((Relation.ReflTransGen.single order).tail plugins).tail application).tail body

/-- A text with the first document. -/
def shortSource : Source where
  name := "module.toml"
  text := "sdk = [30, 21, 30]\n[build-types.qa]\n[build-types.beta]\n" ++
    "[module]\npath = \"app\"\npackage = \"com.app\"\n"

/-- A text with the second document. -/
def longSource : Source where
  name := "module.toml"
  text := "plugins = []\nsdk = [30, 21, 30]\n" ++
    "[module]\npath = 'app'\napplication = false\npackage = 'com.app'\n" ++
    "[build-types.qa]\nbody = ''\n[build-types.beta]\n"

/-- A text has a document in no text. -/
theorem exists_parse_of_bare {text : String} {document : Value}
    (h : (Document.parse text).toOption.map Value.bare = some document) :
    ∃ d, Document.parse text = .ok d ∧ d.bare = document := by
  obtain ⟨d, hd, e⟩ := Option.map_eq_some_iff.1 h
  exact ⟨d, Except.toOption_eq_some_iff.1 hd, e⟩

/-- Both texts are loaded as the same blueprint. When the build types of the second one are swapped,
those of the blueprint are. -/
theorem sameOutcome_of_rearranged_longSource :
    ∃ d d', Document.parse shortSource.text = .ok d ∧ Document.parse longSource.text = .ok d' ∧
      d.Distinct ∧ documentSchema.Rearranged d d' ∧
      SameOutcome (· = ·) (load shortSource) (load longSource) ∧
      (load shortSource).toOption.isSome = true ∧
      ReordersBuildTypes (twoTypes [bodyEntry]) (twoTypes [bodyEntry]).reverse
        (longDocument (twoTypes [bodyEntry])) (longDocument (twoTypes [bodyEntry]).reverse) ∧
      SameOutcome (BuildTypesReordered (twoTypes [bodyEntry]) (twoTypes [bodyEntry]).reverse)
        (loadDocument shortSource d)
        (loadDocument longSource (longDocument (twoTypes [bodyEntry]).reverse)) := by
  obtain ⟨d, hd, short⟩ := exists_parse_of_bare
    (show (Document.parse shortSource.text).toOption.map Value.bare = some shortDocument by
      decide +kernel)
  obtain ⟨d', hd', long⟩ := exists_parse_of_bare
    (show (Document.parse longSource.text).toOption.map Value.bare =
      some (longDocument (twoTypes [bodyEntry])) by decide +kernel)
  have distinct : d.Distinct := by
    obtain ⟨entries, rfl, distinct⟩ := Document.distinct_of_parse hd
    exact distinct.table _ _
  have fromShort : documentSchema.Rearranged d (longDocument (twoTypes [bodyEntry])) :=
    rearranged_longDocument.head (.move (short.trans (by decide)))
  have rearranged : documentSchema.Rearranged d d' :=
    fromShort.tail (.move (Eq.trans (by decide) long.symm))
  have reorders : ReordersBuildTypes (twoTypes [bodyEntry]) (twoTypes [bodyEntry]).reverse
      (longDocument (twoTypes [bodyEntry])) (longDocument (twoTypes [bodyEntry]).reverse) :=
    @ReordersBuildTypes.intro _ _ nowhere nowhere .header .header
      [(.ofName "plugins", .ofItems []), levelsEntry,
        moduleEntry [(.ofName "application", .scalar nowhere (.boolean false))]]
      [] (.ofName "build-types") rfl (List.reverse_perm _).symm
  exact ⟨d, d', hd, hd', distinct, rearranged,
    (sameOutcome_of_rearranged distinct rearranged).2.1 _ _ hd hd', by decide +kernel, reorders,
    (sameOutcome_of_rearranged distinct fromShort).2.2 _ _ _ reorders _ _⟩

end Blueprint

end GradleScript
