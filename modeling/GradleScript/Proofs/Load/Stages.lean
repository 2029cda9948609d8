import GradleScript.Load
import GradleScript.Proofs.Schema.Record

/-!
# The stages of loading a blueprint

A blueprint is loaded if its text is a document, the document can be read as a blueprint and the
blueprint breaks no rule. What the blueprint holds stands in the slots of the document.

## Main definitions

* `LoadError.IsParseError`: the errors of texts that cannot be read as blueprints

## Main results

* `Blueprint.load_eq_ok_iff`, `Blueprint.load_eq_invalid_iff`: when a blueprint is loaded and when
  it breaks a rule
* `Blueprint.violation?_eq_none_iff` and its companions: which rule is broken
* `Blueprint.exists_slots_of_decode`: the slots that a blueprint is read from
-/

namespace GradleScript

open Toml

/-- The text is no document, or the document does not fit the schema. -/
inductive LoadError.IsParseError : LoadError → Prop where
  | malformed (source : Source) (error : SyntaxError) : IsParseError (.malformed source error)
  | unfit (source : Source) (mismatch : Mismatch) : IsParseError (.unfit source mismatch)

theorem wellNamed_documentFields : documentFields.WellNamed := by decide

namespace Blueprint

variable {source : Source} {document : Value} {b : Blueprint}

theorem load_eq_ok_iff : load source = .ok b ↔
    ∃ document, Document.parse source.text = .ok document ∧ decode document = .ok b ∧
      b.violation? = none := by
  constructor
  · intro h
    unfold load at h
    split at h
    · simp at h
    next document hp =>
    split at h
    · simp at h
    next b' hd =>
    split at h
    · simp at h
    next hv =>
    cases h
    exact ⟨document, hp, hd, hv⟩
  · rintro ⟨document, hp, hd, hv⟩
    simp only [load, hp, hd, hv]

/-- A document that cannot be read gives no other error than that. -/
theorem exists_isParseError_iff (hp : Document.parse source.text = .ok document) :
    (∃ e, load source = .error e ∧ e.IsParseError) ↔ ¬ ∃ b, decode document = .ok b := by
  cases hd : decode document with
  | error mismatch =>
    refine iff_of_true ⟨.unfit source mismatch, ?_, .unfit source mismatch⟩ (by simp)
    simp only [load, hp, hd]
  | ok b =>
    refine iff_of_false ?_ fun h => h ⟨b, rfl⟩
    rintro ⟨e, hl, parse⟩
    simp only [load, hp, hd] at hl
    split at hl
    · cases hl
      cases parse
    · simp at hl

/-- The text of a blueprint that breaks a rule is a document, and the document can be read. -/
theorem load_eq_invalid_iff {violation : Violation} {span : Option Span} :
    load source = .error (.invalid source violation span) ↔
      ∃ document b key, Document.parse source.text = .ok document ∧ decode document = .ok b ∧
        b.violation? = some (violation, key) ∧ span = keySpan? source.text key := by
  constructor
  · intro h
    unfold load at h
    split at h
    · simp at h
    next document hp =>
    split at h
    · simp at h
    next b hd =>
    split at h
    next violation' key hv =>
      simp only [Except.error.injEq, LoadError.invalid.injEq, true_and] at h
      obtain ⟨rfl, rfl⟩ := h
      exact ⟨document, b, key, hp, hd, hv, rfl⟩
    · simp at h
  · rintro ⟨document, b, key, hp, hd, hv, rfl⟩
    simp only [load, hp, hd, hv]

/-! ## Rules -/

theorem violation?_eq_none_iff :
    b.violation? = none ↔ ¬ Text.isAllBlank b.package ∧ b.minSdk ≤ b.targetSdk := by
  unfold violation?
  by_cases blank : Text.isAllBlank b.package
  · simp [blank]
  · by_cases above : b.minSdk > b.targetSdk
    · simp [blank, above]
    · simp [blank, UInt32.not_lt.1 above]

theorem violation?_eq_blankPackage_iff :
    (∃ key, b.violation? = some (.blankPackage, key)) ↔ Text.isAllBlank b.package := by
  unfold violation?
  by_cases blank : Text.isAllBlank b.package
  · simp [blank]
  · by_cases above : b.minSdk > b.targetSdk <;> simp [blank, above]

theorem violation?_eq_minAboveTarget_iff {min target : ApiLevel} :
    (∃ key, b.violation? = some (.minAboveTarget min target, key)) ↔
      ¬ Text.isAllBlank b.package ∧ b.minSdk = min ∧ b.targetSdk = target ∧ target < min := by
  unfold violation?
  by_cases blank : Text.isAllBlank b.package
  · simp [blank]
  · by_cases above : b.minSdk > b.targetSdk
    · rw [if_neg blank, if_pos above]
      constructor
      · rintro ⟨key, e⟩
        cases e
        exact ⟨blank, rfl, rfl, above⟩
      · rintro ⟨-, rfl, rfl, -⟩
        exact ⟨"min", rfl⟩
    · rw [if_neg blank, if_neg above]
      constructor
      · rintro ⟨key, ⟨⟩⟩
      · rintro ⟨-, rfl, rfl, lt⟩
        exact absurd lt above

/-! ## Slots -/

/-- A document has a slot for each of its sections. -/
theorem fill?_documentFields_eq_some_iff {slots : Nat → Option Value}
    {plugins dimensions : NameSet} {extraLines : List String} {module : moduleSchema.Carrier}
    {sdk : sdkSchema.Carrier} {buildTypes : List (String × buildTypeSchema.Carrier)}
    {flavors : List flavorSchema.Carrier} {dependencies : List dependencySchema.Carrier}
    {libraries : List librarySchema.Carrier} :
    documentFields.fill? slots = some (plugins, dimensions, extraLines, module, sdk, buildTypes,
        flavors, dependencies, libraries, ()) ↔
      Schema.names.fill? (slots 0) = some plugins ∧
        Schema.names.fill? (slots 1) = some dimensions ∧
        (Schema.list (.text none)).fill? (slots 2) = some extraLines ∧
        moduleSchema.fill? (slots 3) = some module ∧
        sdkSchema.fill? (slots 4) = some sdk ∧
        (Schema.map buildTypeSchema).fill? (slots 5) = some buildTypes ∧
        (Schema.list flavorSchema).fill? (slots 6) = some flavors ∧
        (Schema.list dependencySchema).fill? (slots 7) = some dependencies ∧
        (Schema.list librarySchema).fill? (slots 8) = some libraries := by
  refine Fields.fill?_cons_eq_some_iff.trans (and_congr_right fun _ => ?_)
  refine Fields.fill?_cons_eq_some_iff.trans (and_congr_right fun _ => ?_)
  refine Fields.fill?_cons_eq_some_iff.trans (and_congr_right fun _ => ?_)
  refine Fields.fill?_cons_eq_some_iff.trans (and_congr_right fun _ => ?_)
  refine Fields.fill?_cons_eq_some_iff.trans (and_congr_right fun _ => ?_)
  refine Fields.fill?_cons_eq_some_iff.trans (and_congr_right fun _ => ?_)
  refine Fields.fill?_cons_eq_some_iff.trans (and_congr_right fun _ => ?_)
  refine Fields.fill?_cons_eq_some_iff.trans (and_congr_right fun _ => ?_)
  exact Fields.fill?_cons_eq_some_iff.trans (and_iff_left rfl)

/-- A blueprint is what the slots of its document stand for. -/
theorem exists_slots_of_decode (distinct : document.Distinct) (h : decode document = .ok b) :
    ∃ slots values, document.slots? documentFields.names = some slots ∧
      documentFields.fill? slots = some values ∧ ofDocument values = b := by
  obtain ⟨values, hd, hb⟩ := Except.map_eq_ok_iff.1 h
  obtain ⟨slots, hs, filled⟩ :=
    Schema.exists_slots_of_decode_record wellNamed_documentFields distinct hd
  exact ⟨slots, values, hs, filled, hb⟩

end Blueprint

end GradleScript
