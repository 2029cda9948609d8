import GradleScript.Blueprint

/-!
# Edits of a blueprint

A blueprint is put together by edits, each of which changes one field. No edit checks anything.

## Main definitions

* `Edit`: the edits
* `Blueprint.edit`, `Blueprint.editAll`: a blueprint after one edit and after several in turn
-/

namespace GradleScript

/-- One change of a blueprint. -/
inductive Edit where
  /-- Makes the module an application. -/
  | application
  | addPlugin (plugin : String)
  | addBuildType (buildType : BuildType)
  | addFlavor (flavor : Flavor)
  | addDimension (dimension : String)
  | setDataBinding (enabled : Bool)
  | addDependency (dependency : ModuleDependency)
  | addLibrary (library : LibraryDependency)
  | addExtraLine (line : String)
  deriving DecidableEq, Repr

namespace Blueprint

/-- The blueprint after one edit. What is added goes to the end; a plugin or a dimension that is
there already stays where it is. -/
def edit (b : Blueprint) : Edit → Blueprint
  | .application => { b with isApplication := true }
  | .addPlugin p => { b with plugins := b.plugins.insert p }
  | .addBuildType t => { b with buildTypes := b.buildTypes ++ [t] }
  | .addFlavor f => { b with flavors := b.flavors ++ [f] }
  | .addDimension d => { b with flavorDimensions := b.flavorDimensions.insert d }
  | .setDataBinding e => { b with dataBinding := e }
  | .addDependency d => { b with dependencies := b.dependencies ++ [d] }
  | .addLibrary l => { b with libraries := b.libraries ++ [l] }
  | .addExtraLine l => { b with extraLines := b.extraLines ++ [l] }

/-- The blueprint after several edits, the first one first. -/
def editAll (b : Blueprint) (edits : List Edit) : Blueprint :=
  edits.foldl edit b

@[simp] theorem editAll_nil (b : Blueprint) : b.editAll [] = b := rfl

@[simp] theorem editAll_cons (b : Blueprint) (e : Edit) (es : List Edit) :
    b.editAll (e :: es) = (b.edit e).editAll es := rfl

theorem editAll_append (b : Blueprint) (es fs : List Edit) :
    b.editAll (es ++ fs) = (b.editAll es).editAll fs := by
  simp [editAll]

end Blueprint

end GradleScript
