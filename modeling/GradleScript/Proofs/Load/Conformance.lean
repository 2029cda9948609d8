import GradleScript.Proofs.Load.Stages
import GradleScript.Proofs.Schema.Form

/-!
# Which documents are loaded, and how loading fails

Loading a document has one of four outcomes. Whether the document conforms to its schema is looked
at first; that can be said of the document as a whole, without the order in which it is read. Then
the package counts, and after it the levels.

## Main definitions

* `Conforming`: the documents that conform to the schema
* `HasPackage`, `HasLevel`: the package and the levels in a document

## Main results

* `reads_documentSchema`: the schema reads exactly the conforming documents
* `Blueprint.load_outcome`: when loading a document has which outcome
-/

namespace GradleScript

open Toml

/-! ## Conforming documents -/

/-- The section on the module. -/
def moduleForms : List FieldForm :=
  [⟨"package", true, IsText⟩, ⟨"path", true, IsText⟩, ⟨"application", false, IsFlag⟩,
    ⟨"data-binding", false, IsFlag⟩]

/-- The section on the platform levels. -/
def sdkForms : List FieldForm :=
  [⟨"compile", true, IsLevel⟩, ⟨"min", true, IsLevel⟩, ⟨"target", true, IsLevel⟩]

/-- The section of a build type. -/
def buildTypeForms : List FieldForm :=
  [⟨"body", false, IsText⟩]

/-- The section of a flavor. -/
def flavorForms : List FieldForm :=
  [⟨"name", true, IsText⟩, ⟨"dimension", false, IsText⟩]

/-- The section of a dependency on a module. -/
def dependencyForms : List FieldForm :=
  [⟨"method", false, IsText⟩, ⟨"module", true, IsText⟩]

/-- The section of a dependency on a library. -/
def libraryForms : List FieldForm :=
  [⟨"method", false, IsText⟩, ⟨"coordinate", true, IsText⟩]

/-- The keys of the document. -/
def documentForms : List FieldForm :=
  [⟨"plugins", false, IsArrayOf IsText⟩,
    ⟨"flavor-dimensions", false, IsArrayOf IsText⟩,
    ⟨"extra-lines", false, IsArrayOf IsText⟩,
    ⟨"module", true, IsSection moduleForms⟩,
    ⟨"sdk", true, IsSection sdkForms⟩,
    ⟨"build-types", false, IsTableOf (IsSection buildTypeForms)⟩,
    ⟨"flavors", false, IsArrayOf (IsSection flavorForms)⟩,
    ⟨"dependencies", false, IsArrayOf (IsSection dependencyForms)⟩,
    ⟨"libraries", false, IsArrayOf (IsSection libraryForms)⟩]

/-- The document is a table with no keys but these, with the values that are admitted for them, and
with the sections on the module and on the levels. -/
def Conforming (document : Value) : Prop :=
  ∃ span origin entries, document = .table span origin entries ∧ EntriesFit documentForms entries

/-- The value of a field: that of its key in a table, or the item at its place in an array. -/
def Toml.Value.field? (name : String) (place : Nat) : Value → Option Value
  | .scalar .. => none
  | .array _ _ items => items[place]?
  | .table _ _ entries => Entries.get? name entries

/-- The package in the section on the module. -/
def HasPackage (document : Value) (package : String) : Prop :=
  ∃ span, (document.field? "module" 3).bind (Value.field? "package" 0) =
    some (.scalar span (.text package))

/-- A level in the section on the levels, which is found under this key or at this place. -/
def HasLevel (document : Value) (name : String) (place : Nat) (level : Int) : Prop :=
  ∃ span, (document.field? "sdk" 4).bind (Value.field? name place) =
    some (.scalar span (.integer (some level)))

/-! ## The schema -/

open Schema

theorem reads_moduleSchema : moduleSchema.Reads (IsSection moduleForms) :=
  reads_record
    (.cons rfl (reads_text none) <| .cons rfl reads_path <| .cons rfl reads_flag <|
      .cons rfl reads_flag .nil)
    (by decide)

theorem reads_sdkSchema : sdkSchema.Reads (IsSection sdkForms) :=
  reads_record
    (.cons rfl reads_level <| .cons rfl reads_level <| .cons rfl reads_level .nil)
    (by decide)

theorem reads_buildTypeSchema : buildTypeSchema.Reads (IsSection buildTypeForms) :=
  reads_record (.cons rfl (reads_text (some "")) .nil) (by decide)

theorem reads_flavorSchema : flavorSchema.Reads (IsSection flavorForms) :=
  reads_record (.cons rfl (reads_text none) <| .cons rfl reads_optionalText .nil) (by decide)

theorem reads_dependencySchema : dependencySchema.Reads (IsSection dependencyForms) :=
  reads_record (.cons rfl (reads_text _) <| .cons rfl (reads_text none) .nil) (by decide)

theorem reads_librarySchema : librarySchema.Reads (IsSection libraryForms) :=
  reads_record (.cons rfl (reads_text _) <| .cons rfl (reads_text none) .nil) (by decide)

theorem reads_documentFields : documentFields.Reads documentForms := by
  refine .cons rfl reads_names <| .cons rfl reads_names <|
    .cons rfl (reads_list (reads_text none)) <| .cons rfl reads_moduleSchema <|
    .cons rfl reads_sdkSchema <|
    .cons rfl (reads_map reads_buildTypeSchema ?_) <| .cons rfl (reads_list reads_flavorSchema) <|
    .cons rfl (reads_list reads_dependencySchema) <| .cons rfl (reads_list reads_librarySchema) .nil
  -- a section is no text, so that a date or time is no table of build types
  rintro v ⟨span, s, rfl⟩ ⟨⟩

namespace Blueprint

/-- **A blueprint is read from exactly the conforming documents.** -/
theorem exists_decode_iff {document : Value} (distinct : document.Distinct)
    (table : ∃ span origin entries, document = .table span origin entries) :
    (∃ b, decode document = .ok b) ↔ Conforming document := by
  have read : documentSchema.Reads (IsSection documentForms) :=
    reads_record reads_documentFields wellNamed_documentFields
  have decoded : (∃ b, decode document = .ok b) ↔
      (documentSchema.decode document).toOption.isSome = true := by
    unfold decode
    cases documentSchema.decode document with
    | error mismatch => simp [Except.map, Except.toOption]
    | ok values => simp [Except.map, Except.toOption]
  obtain ⟨span, origin, entries, rfl⟩ := table
  rw [decoded, read _ distinct]
  constructor
  · rintro ⟨fit⟩
    exact ⟨span, origin, entries, rfl, fit⟩
  · rintro ⟨_, _, _, ⟨⟩, fit⟩
    exact .table fit

end Blueprint

/-! ## The package and the levels -/

theorem field?_of_slots? {names : List String} {name : String} {i : Nat}
    (hi : names[i]? = some name) {v : Value} {slots : Nat → Option Value}
    (h : v.slots? names = some slots) : v.field? name i = slots i := by
  cases v with
  | scalar span value => simp [Value.slots?] at h
  | array span ofTables items =>
    cases h
    rfl
  | table span origin entries =>
    rw [Value.slots?] at h
    split at h
    · cases h
      simp [Value.field?, hi]
    · simp at h

theorem exists_text_of_fill? {slot : Option Value} {s : String}
    (h : (text none).fill? slot = some s) : ∃ span, slot = some (.scalar span (.text s)) := by
  cases slot with
  | none => simp [Schema.fill?, Schema.default?] at h
  | some v =>
    have read : readText "a string" v = .ok s := Except.toOption_eq_some_iff.1 h
    unfold readText at read
    split at read
    · next span s' =>
      cases read
      exact ⟨span, rfl⟩
    · simp at read

theorem exists_level_of_fill? {slot : Option Value} {n : ApiLevel}
    (h : level.fill? slot = some n) :
    ∃ span, slot = some (.scalar span (.integer (some (n.toNat : Int)))) := by
  cases slot with
  | none => simp [Schema.fill?, Schema.default?] at h
  | some v =>
    have read : readLevel v = .ok n := Except.toOption_eq_some_iff.1 h
    unfold readLevel at read
    split at read
    · next span m =>
      split at read
      · next range =>
        cases read
        refine ⟨span, ?_⟩
        have e : ((UInt32.ofNat m.toNat).toNat : Int) = m := by
          rw [UInt32.toNat_ofNat_of_lt' (by omega)]
          omega
        rw [e]
      · split at read <;> simp at read
    · simp at read

namespace Blueprint

variable {source : Source} {document : Value} {b : Blueprint}

/-- The package and the levels of a blueprint stand in its document. -/
theorem hasFields_of_decode (distinct : document.Distinct) (h : decode document = .ok b) :
    HasPackage document b.package ∧ HasLevel document "min" 1 b.minSdk.toNat ∧
      HasLevel document "target" 2 b.targetSdk.toNat := by
  obtain ⟨slots, values, hs, filled, rfl⟩ := exists_slots_of_decode distinct h
  obtain ⟨plugins, dims, extra, ⟨package, path, application, dataBinding, ⟨⟩⟩,
    ⟨compile, min, target, ⟨⟩⟩, types, flavors, dependencies, libraries, ⟨⟩⟩ := values
  have slot_distinct := distinct.slots hs
  obtain ⟨-, -, -, inModule, inSdk, -⟩ := fill?_documentFields_eq_some_iff.1 filled
  obtain ⟨module, moduleSlots, hm, hms, inModule⟩ :=
    exists_slots_of_fill?_record (by decide) (slot_distinct 3) inModule
  obtain ⟨sdk, sdkSlots, hk, hks, inSdk⟩ :=
    exists_slots_of_fill?_record (by decide) (slot_distinct 4) inSdk
  -- the package is the first field of its section, the levels are the second and third of theirs
  obtain ⟨inPackage, -⟩ := Fields.fill?_cons_eq_some_iff.1 inModule
  obtain ⟨-, inSdk⟩ := Fields.fill?_cons_eq_some_iff.1 inSdk
  obtain ⟨inMin, inSdk⟩ := Fields.fill?_cons_eq_some_iff.1 inSdk
  obtain ⟨inTarget, -⟩ := Fields.fill?_cons_eq_some_iff.1 inSdk
  have foundModule : document.field? "module" 3 = some module := (field?_of_slots? rfl hs).trans hm
  have foundSdk : document.field? "sdk" 4 = some sdk := (field?_of_slots? rfl hs).trans hk
  refine ⟨?_, ?_, ?_⟩
  · obtain ⟨span, hp⟩ := exists_text_of_fill? inPackage
    refine ⟨span, ?_⟩
    rw [foundModule]
    exact (field?_of_slots? rfl hms).trans hp
  · obtain ⟨span, hn⟩ := exists_level_of_fill? inMin
    refine ⟨span, ?_⟩
    rw [foundSdk]
    exact (field?_of_slots? rfl hks).trans hn
  · obtain ⟨span, hn⟩ := exists_level_of_fill? inTarget
    refine ⟨span, ?_⟩
    rw [foundSdk]
    exact (field?_of_slots? rfl hks).trans hn

end Blueprint

theorem HasPackage.unique {document : Value} {p q : String} (hp : HasPackage document p)
    (hq : HasPackage document q) : p = q := by
  obtain ⟨span, hp⟩ := hp
  obtain ⟨span', hq⟩ := hq
  have e := hp.symm.trans hq
  simp only [Option.some.injEq, Value.scalar.injEq, Scalar.text.injEq] at e
  exact e.2

theorem HasLevel.unique {document : Value} {name : String} {place : Nat} {m n : Int}
    (hm : HasLevel document name place m) (hn : HasLevel document name place n) : m = n := by
  obtain ⟨span, hm⟩ := hm
  obtain ⟨span', hn⟩ := hn
  have e := hm.symm.trans hn
  simp only [Option.some.injEq, Value.scalar.injEq, Scalar.integer.injEq] at e
  exact e.2

namespace Blueprint

/-! ## Outcomes -/

variable {source : Source} {document : Value}

/-- What is read from the document of a text conforms, and its package and levels are those in the
document. -/
theorem conforming_of_decode (h : Document.parse source.text = .ok document)
    (hd : decode document = .ok b) :
    Conforming document ∧ HasPackage document b.package ∧
      HasLevel document "min" 1 b.minSdk.toNat ∧
      HasLevel document "target" 2 b.targetSdk.toNat := by
  obtain ⟨entries, rfl, distinct⟩ := Document.distinct_of_parse h
  have distinct := distinct.table ⟨0, 0⟩ .header
  exact ⟨(exists_decode_iff distinct ⟨_, _, _, rfl⟩).1 ⟨b, hd⟩, hasFields_of_decode distinct hd⟩

theorem exists_decode_of_conforming (h : Document.parse source.text = .ok document)
    (conforming : Conforming document) : ∃ b, decode document = .ok b := by
  obtain ⟨entries, rfl, distinct⟩ := Document.distinct_of_parse h
  exact (exists_decode_iff (distinct.table _ _) ⟨_, _, _, rfl⟩).2 conforming

theorem isParseError_iff_of_parse (h : Document.parse source.text = .ok document) :
    (∃ e, load source = .error e ∧ e.IsParseError) ↔ ¬ Conforming document := by
  rw [exists_isParseError_iff h]
  refine not_congr ⟨?_, ?_⟩
  · rintro ⟨b, hd⟩
    exact (conforming_of_decode h hd).1
  · exact exists_decode_of_conforming h

theorem blankPackage_iff_of_parse (h : Document.parse source.text = .ok document) :
    (∃ span, load source = .error (.invalid source .blankPackage span)) ↔
      Conforming document ∧ ∃ package, HasPackage document package ∧ Text.isAllBlank package := by
  constructor
  · rintro ⟨span, hl⟩
    obtain ⟨document', b, key, hp, hd, hv, -⟩ := load_eq_invalid_iff.1 hl
    cases h.symm.trans hp
    obtain ⟨conforming, hPackage, -⟩ := conforming_of_decode h hd
    exact ⟨conforming, b.package, hPackage, violation?_eq_blankPackage_iff.1 ⟨key, hv⟩⟩
  · rintro ⟨conforming, package, hp, blank⟩
    obtain ⟨b, hd⟩ := exists_decode_of_conforming h conforming
    obtain ⟨-, hPackage, -⟩ := conforming_of_decode h hd
    obtain rfl := hp.unique hPackage
    obtain ⟨key, hv⟩ := violation?_eq_blankPackage_iff.2 blank
    exact ⟨_, load_eq_invalid_iff.2 ⟨_, b, key, h, hd, hv, rfl⟩⟩

theorem minAboveTarget_iff_of_parse (h : Document.parse source.text = .ok document)
    (min target : ApiLevel) :
    (∃ span, load source = .error (.invalid source (.minAboveTarget min target) span)) ↔
      Conforming document ∧ (∃ package, HasPackage document package ∧ ¬ Text.isAllBlank package) ∧
        HasLevel document "min" 1 min.toNat ∧ HasLevel document "target" 2 target.toNat ∧
        target < min := by
  constructor
  · rintro ⟨span, hl⟩
    obtain ⟨document', b, key, hp, hd, hv, -⟩ := load_eq_invalid_iff.1 hl
    cases h.symm.trans hp
    obtain ⟨conforming, hPackage, hMin, hTarget⟩ := conforming_of_decode h hd
    obtain ⟨notBlank, rfl, rfl, above⟩ := violation?_eq_minAboveTarget_iff.1 ⟨key, hv⟩
    exact ⟨conforming, ⟨b.package, hPackage, notBlank⟩, hMin, hTarget, above⟩
  · rintro ⟨conforming, ⟨package, hp, notBlank⟩, hm, ht, above⟩
    obtain ⟨b, hd⟩ := exists_decode_of_conforming h conforming
    obtain ⟨-, hPackage, hMin, hTarget⟩ := conforming_of_decode h hd
    obtain rfl := hp.unique hPackage
    have min_eq : b.minSdk = min := UInt32.toNat_inj.1 (Int.ofNat_inj.1 (hMin.unique hm))
    have target_eq : b.targetSdk = target :=
      UInt32.toNat_inj.1 (Int.ofNat_inj.1 (hTarget.unique ht))
    obtain ⟨key, hv⟩ :=
      violation?_eq_minAboveTarget_iff.2 ⟨notBlank, min_eq, target_eq, above⟩
    exact ⟨_, load_eq_invalid_iff.2 ⟨_, b, key, h, hd, hv, rfl⟩⟩

theorem exists_load_iff_of_parse (h : Document.parse source.text = .ok document) :
    (∃ b, load source = .ok b) ↔
      Conforming document ∧ (∃ package, HasPackage document package ∧ ¬ Text.isAllBlank package) ∧
        ∃ min target, HasLevel document "min" 1 min ∧ HasLevel document "target" 2 target ∧
          min ≤ target := by
  constructor
  · rintro ⟨b, hl⟩
    obtain ⟨document', hp, hd, hv⟩ := load_eq_ok_iff.1 hl
    cases h.symm.trans hp
    obtain ⟨conforming, hPackage, hMin, hTarget⟩ := conforming_of_decode h hd
    obtain ⟨notBlank, le⟩ := violation?_eq_none_iff.1 hv
    exact ⟨conforming, ⟨b.package, hPackage, notBlank⟩, _, _, hMin, hTarget, Int.ofNat_le.2 le⟩
  · rintro ⟨conforming, ⟨package, hp, notBlank⟩, min, target, hm, ht, le⟩
    obtain ⟨b, hd⟩ := exists_decode_of_conforming h conforming
    obtain ⟨-, hPackage, hMin, hTarget⟩ := conforming_of_decode h hd
    obtain rfl := hp.unique hPackage
    obtain rfl := hm.unique hMin
    obtain rfl := ht.unique hTarget
    have hv := violation?_eq_none_iff.2 ⟨notBlank, Int.ofNat_le.1 le⟩
    exact ⟨b, load_eq_ok_iff.2 ⟨_, h, hd, hv⟩⟩

/-- **Loading a document has one of four outcomes.** It cannot be read as a blueprint if it does not
conform. Otherwise the package has to have more than white space in it, and if it has, the lowest
level must not be above the target level. -/
theorem load_outcome (h : Document.parse source.text = .ok document) :
    ((∃ e, load source = .error e ∧ e.IsParseError) ↔ ¬ Conforming document) ∧
    ((∃ span, load source = .error (.invalid source .blankPackage span)) ↔
      Conforming document ∧ ∃ package, HasPackage document package ∧ Text.isAllBlank package) ∧
    (∀ min target, (∃ span,
        load source = .error (.invalid source (.minAboveTarget min target) span)) ↔
      Conforming document ∧ (∃ package, HasPackage document package ∧ ¬ Text.isAllBlank package) ∧
        HasLevel document "min" 1 min.toNat ∧ HasLevel document "target" 2 target.toNat ∧
        target < min) ∧
    ((∃ b, load source = .ok b) ↔
      Conforming document ∧ (∃ package, HasPackage document package ∧ ¬ Text.isAllBlank package) ∧
        ∃ min target, HasLevel document "min" 1 min ∧ HasLevel document "target" 2 target ∧
          min ≤ target) :=
  ⟨isParseError_iff_of_parse h, blankPackage_iff_of_parse h, minAboveTarget_iff_of_parse h,
    exists_load_iff_of_parse h⟩

/-- A document with one section as an array and one as a table, and with the levels swapped. -/
def swappedLevels : Source where
  name := "module.toml"
  text := "module = [\"a\", \"m\"]\n[sdk]\ntarget = 1\nmin = 2\ncompile = 3"

theorem load_outcome_swappedLevels : ∃ document,
    Document.parse swappedLevels.text = .ok document ∧ Conforming document ∧
      HasLevel document "min" 1 2 ∧ HasLevel document "target" 2 1 := by
  have loaded : load swappedLevels =
      .error (.invalid swappedLevels (.minAboveTarget 2 1) (some ⟨37, 3⟩)) := by
    decide +kernel
  obtain ⟨document, b, key, h, -⟩ := load_eq_invalid_iff.1 loaded
  obtain ⟨conforming, -, hMin, hTarget, -⟩ := ((load_outcome h).2.2.1 2 1).1 ⟨_, loaded⟩
  exact ⟨document, h, conforming, hMin, hTarget⟩

end Blueprint

end GradleScript
