import GradleScript.Blueprint.Edit
import GradleScript.Blueprint.Script
import Mathlib.Data.List.Basic
import Mathlib.Data.List.Induction

/-!
# What a run of edits leaves

Each edit is about one field, and leaves the others as they are. So a field is, after a run of
edits, what the edits of that field make of it in their order, and how edits of different fields
are interleaved does not matter.

## Main definitions

* `Edit.field`: the field that an edit is about
* `Blueprint.BuiltFrom`: what a blueprint holds after a run of edits
* `SameByField`: two runs have the same edits of each field

## Main results

* `NameSet.toList_ofList`: a set lists the first mentions of its names
* `Blueprint.editAll_view`: a part of a blueprint after a run of edits
* `Blueprint.editAll_new`: a run of edits of a new blueprint
-/

namespace GradleScript

/-! ## Sets of names -/

namespace NameSet

/-- Adding one more name to the set of a list. -/
theorem ofList_concat (names : List String) (name : String) :
    ofList (names ++ [name]) = (ofList names).insert name := by
  simp [ofList]

theorem mem_ofList {names : List String} {name : String} : name ∈ ofList names ↔ name ∈ names := by
  induction names using List.reverseRecOn with
  | nil => exact Iff.rfl
  | append_singleton front last ih =>
    rw [ofList_concat, mem_insert, ih, List.mem_append, List.mem_singleton]

/-- **A set lists its names in the order of their first mention.** -/
theorem toList_ofList (names : List String) : (ofList names).toList = names.eraseDups := by
  induction names using List.reverseRecOn with
  | nil => rfl
  | append_singleton front last ih =>
    rw [ofList_concat, toList_insert, ih, List.eraseDups_append]
    by_cases h : last ∈ front
    · rw [if_pos (mem_ofList.2 h)]
      simp [List.removeAll, h]
    · rw [if_neg fun hm => h (mem_ofList.1 hm)]
      simp [List.removeAll, h, List.eraseDups_cons]

end NameSet

/-! ## The edits of a field -/

namespace Edit

/-- The fields of a blueprint that edits are about. -/
inductive Field where
  | isApplication
  | plugins
  | buildTypes
  | flavors
  | flavorDimensions
  | dataBinding
  | dependencies
  | libraries
  | extraLines
  deriving DecidableEq, Repr

/-- The field that an edit is about. -/
def field : Edit → Field
  | .application => .isApplication
  | .addPlugin _ => .plugins
  | .addBuildType _ => .buildTypes
  | .addFlavor _ => .flavors
  | .addDimension _ => .flavorDimensions
  | .setDataBinding _ => .dataBinding
  | .addDependency _ => .dependencies
  | .addLibrary _ => .libraries
  | .addExtraLine _ => .extraLines

/-- What an edit of a field is given. -/
abbrev Field.Argument : Field → Type
  | .isApplication => Unit
  | .plugins => String
  | .buildTypes => BuildType
  | .flavors => Flavor
  | .flavorDimensions => String
  | .dataBinding => Bool
  | .dependencies => ModuleDependency
  | .libraries => LibraryDependency
  | .extraLines => String

/-- What an edit is given, if it is about a field. -/
def arg? : (field : Field) → Edit → Option field.Argument
  | .isApplication, .application => some ()
  | .plugins, .addPlugin p => some p
  | .buildTypes, .addBuildType t => some t
  | .flavors, .addFlavor f => some f
  | .flavorDimensions, .addDimension d => some d
  | .dataBinding, .setDataBinding enabled => some enabled
  | .dependencies, .addDependency d => some d
  | .libraries, .addLibrary l => some l
  | .extraLines, .addExtraLine l => some l
  | _, _ => none

/-- An edit is given something for the field that it is about, and for no other. -/
theorem isSome_arg?_iff {field : Field} {e : Edit} : (e.arg? field).isSome ↔ e.field = field := by
  cases field <;> cases e <;> simp [arg?, Edit.field]

/-- What a run is given for a field, in order. -/
def args (field : Field) (es : List Edit) : List field.Argument :=
  es.filterMap (arg? field)

end Edit

/-- Two runs have the same edits of each field, in the same order. -/
def SameByField (es fs : List Edit) : Prop :=
  ∀ field : Edit.Field, es.filter (·.field = field) = fs.filter (·.field = field)

/-- A run is given for a field what the edits of the field are given. -/
theorem args_filter_field (field : Edit.Field) (es : List Edit) :
    Edit.args field (es.filter (·.field = field)) = Edit.args field es := by
  rw [Edit.args, List.filterMap_filter]
  refine List.filterMap_congr fun e _ => ?_
  by_cases h : e.field = field
  · simp [h]
  · have nothing : e.arg? field = none := by
      rw [← Option.not_isSome_iff_eq_none, Edit.isSome_arg?_iff]
      exact h
    simp [h, nothing]

/-- Runs with the same edits of each field are given the same for each. -/
theorem SameByField.args_eq {es fs : List Edit} (h : SameByField es fs) (field : Edit.Field) :
    Edit.args field es = Edit.args field fs := by
  rw [← args_filter_field, h field, args_filter_field]

/-- Runs with the same edits of each field have the same edits. -/
theorem SameByField.mem_iff {es fs : List Edit} (h : SameByField es fs) (e : Edit) :
    e ∈ es ↔ e ∈ fs := by
  have among (gs : List Edit) : e ∈ gs ↔ e ∈ gs.filter (·.field = e.field) := by simp
  rw [among es, h e.field, ← among fs]

/-! ## Runs -/

namespace Blueprint

/-- What a part of a blueprint becomes in a run of edits, when each edit either gives it an argument
or leaves it as it is. -/
theorem editAll_view {σ α : Type} (view : Blueprint → σ) (arg? : Edit → Option α)
    (put : σ → α → σ) (step : ∀ b e, view (b.edit e) = (arg? e).elim (view b) (put (view b)))
    (b : Blueprint) (es : List Edit) :
    view (b.editAll es) = (es.filterMap arg?).foldl put (view b) := by
  induction es generalizing b with
  | nil => rfl
  | cons e rest ih =>
    rw [editAll_cons, ih, step]
    cases ha : arg? e with
    | none => rw [List.filterMap_cons_none ha, Option.elim_none]
    | some a => rw [List.filterMap_cons_some ha, Option.elim_some, List.foldl_cons]

/-- A list that edits add to has their arguments at its end. -/
theorem editAll_view_append {α : Type} (view : Blueprint → List α) (arg? : Edit → Option α)
    (step : ∀ b e, view (b.edit e) = view b ++ (arg? e).toList) (b : Blueprint) (es : List Edit) :
    view (b.editAll es) = view b ++ es.filterMap arg? := by
  have each (b : Blueprint) (e : Edit) :
      view (b.edit e) = (arg? e).elim (view b) (fun a => view b ++ [a]) := by
    rw [step]
    cases arg? e <;> simp
  rw [editAll_view view arg? (fun as a => as ++ [a]) each, List.foldl_append_eq_append,
    ← List.flatMap_def, List.flatMap_singleton']

/-- A set that edits add to and that is empty before them lists the distinct arguments. -/
theorem toList_editAll_view_insert (view : Blueprint → NameSet) (arg? : Edit → Option String)
    (step : ∀ b e, view (b.edit e) = (arg? e).elim (view b) (view b).insert) {b : Blueprint}
    (empty : view b = ∅) (es : List Edit) :
    (view (b.editAll es)).toList.Nodup ∧
      (view (b.editAll es)).toList = (es.filterMap arg?).eraseDups := by
  refine ⟨NameSet.nodup _, ?_⟩
  rw [editAll_view view arg? NameSet.insert step, empty]
  exact NameSet.toList_ofList _

/-- What no edit is about stays as it is. -/
theorem editAll_view_of_frame {σ : Type} (view : Blueprint → σ)
    (step : ∀ b e, view (b.edit e) = view b) (b : Blueprint) (es : List Edit) :
    view (b.editAll es) = view b := by
  rw [editAll_view view (fun _ => (none : Option Empty)) (fun s _ => s) step, List.filterMap_none]
  rfl

/-- What is overwritten again and again has the last value. -/
theorem foldl_overwrite {α : Type} (first : α) (values : List α) :
    values.foldl (fun _ value => value) first = values.getLast?.getD first := by
  induction values generalizing first with
  | nil => rfl
  | cons value rest ih => rw [List.foldl_cons, ih, List.getLast?_cons, Option.getD_some]

/-- A module is an application after a run if it was one before or if some edit makes it one. -/
theorem isApplication_editAll (b : Blueprint) (es : List Edit) :
    (b.editAll es).isApplication = true ↔ b.isApplication = true ∨ .application ∈ es := by
  induction es generalizing b with
  | nil => simp
  | cons e rest ih =>
    rw [editAll_cons, ih]
    cases e <;> simp [edit]

/-- What a blueprint holds after a run of edits of a new one. -/
structure BuiltFrom (package path : String) (compileSdk minSdk targetSdk : ApiLevel)
    (es : List Edit) (b : Blueprint) : Prop where
  package : b.package = package
  path : b.path = path
  compileSdk : b.compileSdk = compileSdk
  minSdk : b.minSdk = minSdk
  targetSdk : b.targetSdk = targetSdk
  /-- The module is an application if it has been made one, however often. -/
  isApplication : b.isApplication = true ↔ .application ∈ es
  /-- The plugins are the distinct arguments in the order of their first mention. -/
  plugins : b.plugins.toList.Nodup ∧ b.plugins.toList = (Edit.args .plugins es).eraseDups
  buildTypes : b.buildTypes = Edit.args .buildTypes es
  flavors : b.flavors = Edit.args .flavors es
  /-- The dimensions are the distinct arguments in the order of their first mention. -/
  flavorDimensions : b.flavorDimensions.toList.Nodup ∧
    b.flavorDimensions.toList = (Edit.args .flavorDimensions es).eraseDups
  /-- The last setting counts. -/
  dataBinding : b.dataBinding = (Edit.args .dataBinding es).getLast?.getD false
  dependencies : b.dependencies = Edit.args .dependencies es
  libraries : b.libraries = Edit.args .libraries es
  extraLines : b.extraLines = Edit.args .extraLines es

/-- **What a run of edits makes of a new blueprint.** -/
theorem builtFrom (package path : String) (compileSdk minSdk targetSdk : ApiLevel)
    (es : List Edit) :
    BuiltFrom package path compileSdk minSdk targetSdk es
      ((new package path compileSdk minSdk targetSdk).editAll es) where
  package := editAll_view_of_frame (·.package) (fun _ e => by cases e <;> rfl) _ es
  path := editAll_view_of_frame (·.path) (fun _ e => by cases e <;> rfl) _ es
  compileSdk := editAll_view_of_frame (·.compileSdk) (fun _ e => by cases e <;> rfl) _ es
  minSdk := editAll_view_of_frame (·.minSdk) (fun _ e => by cases e <;> rfl) _ es
  targetSdk := editAll_view_of_frame (·.targetSdk) (fun _ e => by cases e <;> rfl) _ es
  isApplication := by simp [isApplication_editAll, new]
  plugins := toList_editAll_view_insert (·.plugins) (Edit.arg? .plugins)
    (fun _ e => by cases e <;> rfl) rfl es
  buildTypes := editAll_view_append (·.buildTypes) (Edit.arg? .buildTypes)
    (fun _ e => by cases e <;> simp [edit, Edit.arg?]) _ es
  flavors := editAll_view_append (·.flavors) (Edit.arg? .flavors)
    (fun _ e => by cases e <;> simp [edit, Edit.arg?]) _ es
  flavorDimensions := toList_editAll_view_insert (·.flavorDimensions)
    (Edit.arg? .flavorDimensions) (fun _ e => by cases e <;> rfl) rfl es
  dataBinding := by
    have built := editAll_view (·.dataBinding) (Edit.arg? .dataBinding) (fun _ value => value)
      (fun _ e => by cases e <;> rfl) (new package path compileSdk minSdk targetSdk) es
    rw [built, foldl_overwrite]
    rfl
  dependencies := editAll_view_append (·.dependencies) (Edit.arg? .dependencies)
    (fun _ e => by cases e <;> simp [edit, Edit.arg?]) _ es
  libraries := editAll_view_append (·.libraries) (Edit.arg? .libraries)
    (fun _ e => by cases e <;> simp [edit, Edit.arg?]) _ es
  extraLines := editAll_view_append (·.extraLines) (Edit.arg? .extraLines)
    (fun _ e => by cases e <;> simp [edit, Edit.arg?]) _ es

/-- Blueprints that are built from runs with the same edits of each field are the same. -/
theorem BuiltFrom.eq_of_sameByField {package path : String}
    {compileSdk minSdk targetSdk : ApiLevel} {es fs : List Edit} {a b : Blueprint}
    (ha : BuiltFrom package path compileSdk minSdk targetSdk es a)
    (hb : BuiltFrom package path compileSdk minSdk targetSdk fs b) (h : SameByField es fs) :
    a = b := by
  apply Blueprint.ext
  · rw [ha.package, hb.package]
  · rw [ha.path, hb.path]
  · rw [ha.compileSdk, hb.compileSdk]
  · rw [ha.minSdk, hb.minSdk]
  · rw [ha.targetSdk, hb.targetSdk]
  · rw [Bool.eq_iff_iff, ha.isApplication, hb.isApplication, h.mem_iff]
  · exact NameSet.ext (by rw [ha.plugins.2, hb.plugins.2, h.args_eq])
  · rw [ha.buildTypes, hb.buildTypes, h.args_eq]
  · rw [ha.dataBinding, hb.dataBinding, h.args_eq]
  · exact NameSet.ext (by rw [ha.flavorDimensions.2, hb.flavorDimensions.2, h.args_eq])
  · rw [ha.flavors, hb.flavors, h.args_eq]
  · rw [ha.dependencies, hb.dependencies, h.args_eq]
  · rw [ha.libraries, hb.libraries, h.args_eq]
  · rw [ha.extraLines, hb.extraLines, h.args_eq]

/-- **The order of edits matters within a field only.** Each field of a blueprint is what the edits
of that field make of it, and runs with the same edits of each field lead to one blueprint, with
the same plugins and dimensions in the same order and the same text. -/
theorem editAll_new (package path : String) (compileSdk minSdk targetSdk : ApiLevel)
    (es : List Edit) :
    BuiltFrom package path compileSdk minSdk targetSdk es
        ((new package path compileSdk minSdk targetSdk).editAll es) ∧
      ∀ fs, SameByField es fs →
        (new package path compileSdk minSdk targetSdk).editAll fs =
            (new package path compileSdk minSdk targetSdk).editAll es ∧
          ∀ indent, ((new package path compileSdk minSdk targetSdk).editAll fs).render indent =
            ((new package path compileSdk minSdk targetSdk).editAll es).render indent := by
  refine ⟨builtFrom _ _ _ _ _ es, fun fs h => ?_⟩
  have one := (builtFrom package path compileSdk minSdk targetSdk es).eq_of_sameByField
    (builtFrom package path compileSdk minSdk targetSdk fs) h
  exact ⟨one.symm, fun indent => by rw [one]⟩

/-- The last setting of data binding counts and the first mention of a plugin does, wherever the
edits of other fields come. -/
theorem editAll_new_interleaved :
    SameByField
        [.addPlugin "b", .setDataBinding true, .addPlugin "a", .addDimension "tier", .application,
          .setDataBinding false, .addPlugin "b"]
        [.application, .addPlugin "b", .addPlugin "a", .addPlugin "b", .setDataBinding true,
          .setDataBinding false, .addDimension "tier"] ∧
      (new "com.app" "app" 30 21 30).editAll
          [.application, .addPlugin "b", .addPlugin "a", .addPlugin "b", .setDataBinding true,
            .setDataBinding false, .addDimension "tier"] =
        (new "com.app" "app" 30 21 30).editAll
          [.addPlugin "b", .setDataBinding true, .addPlugin "a", .addDimension "tier",
            .application, .setDataBinding false, .addPlugin "b"] := by
  have rearranged : SameByField
      [.addPlugin "b", .setDataBinding true, .addPlugin "a", .addDimension "tier", .application,
        .setDataBinding false, .addPlugin "b"]
      [.application, .addPlugin "b", .addPlugin "a", .addPlugin "b", .setDataBinding true,
        .setDataBinding false, .addDimension "tier"] := by
    intro field
    cases field <;> rfl
  exact ⟨rearranged, ((editAll_new "com.app" "app" 30 21 30 _).2 _ rearranged).1⟩

end Blueprint

end GradleScript
