import GradleScript.Proofs.Blueprint.WellFormed
import GradleScript.Proofs.Schema.Written

/-!
# Which blueprints can be loaded

Any blueprint can be written as a document, from which it is read again with everything in its
order, as long as no two of its build types have the same name. So the blueprints that can be
loaded are exactly those with distinct build types that break no rule.

## Main definitions

* `Blueprint.sections`: what the document of a blueprint holds
* `Blueprint.toDocument`: the document of a blueprint
* `Value.IsDocument`: the trees of documents
* `Blueprint.LoadedFrom`: the blueprint is read from a document and breaks no rule

## Main results

* `Blueprint.ofDocument_sections`: no section is lost
* `Blueprint.decode_toDocument`: a blueprint is read back from its document
* `Blueprint.exists_loadedFrom_iff`: which blueprints can be loaded
-/

namespace GradleScript

open Toml

/-- The tree of a document: a table in which, at whatever depth, no key is there twice. -/
def Toml.Value.IsDocument (v : Value) : Prop :=
  ∃ entries : Entries, entries.Distinct ∧ v = .ofEntries entries

/-! ## The document of a blueprint -/

/-- The entry of a build type. -/
def BuildType.toEntry (t : BuildType) : String × buildTypeSchema.Carrier := (t.name, (t.body, ()))

/-- The section of a flavor. -/
def Flavor.toSection (f : Flavor) : flavorSchema.Carrier := (f.name, f.dimension, ())

/-- The section of a dependency on a module. -/
def ModuleDependency.toSection (d : ModuleDependency) : dependencySchema.Carrier :=
  (d.method, d.module, ())

/-- The section of a dependency on a library. -/
def LibraryDependency.toSection (l : LibraryDependency) : librarySchema.Carrier :=
  (l.method, l.coordinate, ())

namespace Blueprint

/-- What the document of a blueprint holds. -/
def sections (b : Blueprint) : documentSchema.Carrier :=
  (b.plugins, b.flavorDimensions, b.extraLines,
    (b.package, b.path, b.isApplication, b.dataBinding, ()),
    (b.compileSdk, b.minSdk, b.targetSdk, ()), b.buildTypes.map BuildType.toEntry,
    b.flavors.map Flavor.toSection, b.dependencies.map ModuleDependency.toSection,
    b.libraries.map LibraryDependency.toSection, ())

/-- The entries of the document of a blueprint. -/
def documentEntries (b : Blueprint) : Entries := documentFields.write b.sections

/-- The document of a blueprint. -/
def toDocument (b : Blueprint) : Value := .ofEntries b.documentEntries

theorem ofDocument_sections (b : Blueprint) : ofDocument b.sections = b := by
  have types : (b.buildTypes.map BuildType.toEntry).map BuildType.ofEntry = b.buildTypes :=
    List.map_map.trans (List.map_id _)
  have flavors : (b.flavors.map Flavor.toSection).map Flavor.ofSection = b.flavors :=
    List.map_map.trans (List.map_id _)
  have dependencies : (b.dependencies.map ModuleDependency.toSection).map
      ModuleDependency.ofSection = b.dependencies := List.map_map.trans (List.map_id _)
  have libraries : (b.libraries.map LibraryDependency.toSection).map
      LibraryDependency.ofSection = b.libraries := List.map_map.trans (List.map_id _)
  simp only [sections, ofDocument, types, flavors, dependencies, libraries]

open Schema in
/-- The sections are read back if the keys of the build types are distinct. -/
theorem recovers_sections {b : Blueprint} (nodup : (b.buildTypes.map (·.name)).Nodup) :
    documentSchema.Recovers b.sections := by
  have types : (map buildTypeSchema).Recovers (b.buildTypes.map BuildType.toEntry) := by
    refine recovers_map ?_ ?_ ?_
    · rw [List.map_map]
      exact nodup
    · exact List.forall_mem_map.2 fun t _ =>
        recovers_record (by decide) ⟨recovers_text _ _, trivial⟩
    · exact List.forall_mem_map.2 fun t _ => rfl
  have flavors : (list flavorSchema).Recovers (b.flavors.map Flavor.toSection) :=
    recovers_list_record (by decide) Flavor.toSection
      (fun _ => ⟨recovers_text _ _, recovers_optionalText _, trivial⟩) b.flavors
  have dependencies : (list dependencySchema).Recovers
      (b.dependencies.map ModuleDependency.toSection) :=
    recovers_list_record (by decide) ModuleDependency.toSection
      (fun _ => ⟨recovers_text _ _, recovers_text _ _, trivial⟩) b.dependencies
  have libraries : (list librarySchema).Recovers (b.libraries.map LibraryDependency.toSection) :=
    recovers_list_record (by decide) LibraryDependency.toSection
      (fun _ => ⟨recovers_text _ _, recovers_text _ _, trivial⟩) b.libraries
  have extraLines : (list (text none)).Recovers b.extraLines :=
    recovers_list (fun t _ => recovers_text _ t) fun t _ => rfl
  have module : moduleSchema.Recovers (b.package, b.path, b.isApplication, b.dataBinding, ()) :=
    recovers_record (by decide)
      ⟨recovers_text _ _, recovers_path _, recovers_flag _, recovers_flag _, trivial⟩
  have sdk : sdkSchema.Recovers (b.compileSdk, b.minSdk, b.targetSdk, ()) :=
    recovers_record (by decide)
      ⟨recovers_level _, recovers_level _, recovers_level _, trivial⟩
  exact recovers_record wellNamed_documentFields ⟨recovers_names _, recovers_names _, extraLines,
    module, sdk, types, flavors, dependencies, libraries, trivial⟩

/-- **A blueprint is read back from its document**, in which no key is there twice. -/
theorem decode_toDocument {b : Blueprint} (nodup : (b.buildTypes.map (·.name)).Nodup) :
    b.documentEntries.Distinct ∧ decode b.toDocument = .ok b := by
  have recovers := recovers_sections nodup
  have read : documentSchema.decode b.toDocument = .ok b.sections :=
    Except.toOption_eq_some_iff.1 recovers.fill
  refine ⟨(recovers.distinct b.toDocument rfl).entries, ?_⟩
  rw [decode, read, Except.map, ofDocument_sections]

/-! ## Loading -/

/-- The blueprint is read from a document and breaks no rule. -/
def LoadedFrom (document : Value) (b : Blueprint) : Prop :=
  decode document = .ok b ∧ b.violation? = none

/-- Loading a text is loading the tree of its document. -/
theorem load_eq_ok_iff_loadedFrom {source : Source} {b : Blueprint} : load source = .ok b ↔
    ∃ document, Document.parse source.text = .ok document ∧ document.IsDocument ∧
      b.LoadedFrom document := by
  rw [load_eq_ok_iff]
  refine exists_congr fun document => and_congr_right fun hp => ?_
  obtain ⟨entries, rfl, distinct⟩ := Document.distinct_of_parse hp
  exact ⟨fun loaded => ⟨⟨entries, distinct, rfl⟩, loaded⟩, fun h => h.2⟩

/-- **The blueprints that can be loaded** are those whose package is not blank, whose lowest level
is not above the target level and whose build types have distinct names. -/
theorem exists_loadedFrom_iff (b : Blueprint) :
    (∃ document : Value, document.IsDocument ∧ b.LoadedFrom document) ↔
      ¬ Text.isAllBlank b.package ∧ b.minSdk ≤ b.targetSdk ∧
        (b.buildTypes.map (·.name)).Nodup := by
  constructor
  · rintro ⟨_, ⟨entries, distinct, rfl⟩, hd, hv⟩
    obtain ⟨notBlank, le⟩ := violation?_eq_none_iff.1 hv
    exact ⟨notBlank, le, nodup_buildTypes_of_decode (distinct.table _ _) hd⟩
  · rintro ⟨notBlank, le, nodup⟩
    obtain ⟨distinct, hd⟩ := decode_toDocument nodup
    exact ⟨b.toDocument, ⟨b.documentEntries, distinct, rfl⟩, hd,
      violation?_eq_none_iff.2 ⟨notBlank, le⟩⟩

end Blueprint

end GradleScript
