import GradleScript.Blueprint.Edit
import GradleScript.Proofs.Blueprint.Parts
import GradleScript.Proofs.Script.Texts

/-!
# What the text of a build script says

The text of a build script says everything about the blueprint that the script depends on: two
blueprints with the same text have the same content. The reader knows which blocks there are and
how deep they can be, so that the bodies of build types may hold any text at all.

## Main definitions

* `Blueprint.SameContent`: two blueprints agree on what is written into their scripts
* `Blueprint.Plain`: the texts of a blueprint keep to their place on a line

## Main results

* `Blueprint.sameContent_of_render_eq`: plain blueprints with the same text have the same content
-/

namespace GradleScript

/-! ## Lists and texts -/

/-- Members that agree under `f` agree under `g`, so that lists do. -/
theorem map_eq_map_of_imp {α β γ : Type} {f : α → β} {g : α → γ} {as bs : List α}
    (h : ∀ a ∈ as, ∀ b ∈ bs, f a = f b → g a = g b) (e : as.map f = bs.map f) :
    as.map g = bs.map g := by
  induction as generalizing bs with
  | nil =>
    cases bs with
    | nil => rfl
    | cons b bs => simp at e
  | cons a as ih =>
    cases bs with
    | nil => simp at e
    | cons b bs =>
      simp only [List.map_cons, List.cons.injEq] at e ⊢
      exact ⟨h a (by simp) b (by simp) e.1,
        ih (fun x hx y hy => h x (by simp [hx]) y (by simp [hy])) e.2⟩

/-! ## Statements without newlines -/

namespace Statement

/-- No text of the statement has a newline. -/
def Plain (s : Statement) : Prop := ∀ t ∈ s.texts, OnOneLine t

instance (s : Statement) : Decidable s.Plain :=
  inferInstanceAs (Decidable (∀ t ∈ s.texts, OnOneLine t))

@[simp] theorem plain_line {text : String} : (line text).Plain ↔ OnOneLine text := by
  simp [Plain, texts]

@[simp] theorem plain_keyValue {key value : String} :
    (keyValue key value).Plain ↔ OnOneLine key ∧ OnOneLine value := by
  simp [Plain, texts]

@[simp] theorem plain_block {name : String} {children : List Statement} :
    (block name children).Plain ↔ OnOneLine name ∧ ∀ s ∈ children, s.Plain := by
  simp only [Plain, texts, List.mem_cons, forall_eq_or_imp, mem_textsAll]
  refine and_congr_right fun _ => ⟨fun h s hs t ht => h t ⟨s, hs, ht⟩, ?_⟩
  rintro h t ⟨s, hs, ht⟩
  exact h s hs t ht

end Statement

/-! ## What is recovered -/

namespace Blueprint

/-- Two blueprints agree on what is written into their scripts. Of a build type's body that is its
lines; the package is written for an application only. -/
structure SameContent (a b : Blueprint) : Prop where
  compileSdk : a.compileSdk = b.compileSdk
  minSdk : a.minSdk = b.minSdk
  targetSdk : a.targetSdk = b.targetSdk
  isApplication : a.isApplication = b.isApplication
  package : a.isApplication = true → a.package = b.package
  plugins : a.plugins = b.plugins
  buildTypes : a.buildTypes.map (fun t => (t.name, Text.lines t.body)) =
    b.buildTypes.map fun t => (t.name, Text.lines t.body)
  dataBinding : a.dataBinding = b.dataBinding
  flavorDimensions : a.flavorDimensions = b.flavorDimensions
  flavors : a.flavors = b.flavors
  dependencies : a.dependencies = b.dependencies
  libraries : a.libraries = b.libraries
  extraLines : a.extraLines = b.extraLines

/-- The texts of a blueprint keep to their place on a line: none of them has a newline, but for
the bodies of build types; no declared dimension has a quotation mark, and no method a space. -/
structure Plain (b : Blueprint) : Prop where
  package : OnOneLine b.package
  plugins : ∀ p ∈ b.plugins.toList, OnOneLine p
  buildTypes : ∀ t ∈ b.buildTypes, OnOneLine t.name
  flavorDimensions : ∀ d ∈ b.flavorDimensions.toList, OnOneLine d ∧ '"' ∉ d.toList
  flavors : ∀ f ∈ b.flavors, OnOneLine f.name ∧ ∀ d ∈ f.dimension, OnOneLine d
  dependencies : ∀ d ∈ b.dependencies, OnOneLine d.method ∧ ' ' ∉ d.method.toList ∧
    OnOneLine d.module
  libraries : ∀ l ∈ b.libraries, OnOneLine l.method ∧ ' ' ∉ l.method.toList ∧
    OnOneLine l.coordinate
  extraLines : ∀ l ∈ b.extraLines, OnOneLine l

instance (b : Blueprint) : Decidable b.Plain :=
  decidable_of_iff
    (OnOneLine b.package ∧ (∀ p ∈ b.plugins.toList, OnOneLine p) ∧
      (∀ t ∈ b.buildTypes, OnOneLine t.name) ∧
      (∀ d ∈ b.flavorDimensions.toList, OnOneLine d ∧ '"' ∉ d.toList) ∧
      (∀ f ∈ b.flavors, OnOneLine f.name ∧ ∀ d ∈ f.dimension, OnOneLine d) ∧
      (∀ d ∈ b.dependencies, OnOneLine d.method ∧ ' ' ∉ d.method.toList ∧ OnOneLine d.module) ∧
      (∀ l ∈ b.libraries, OnOneLine l.method ∧ ' ' ∉ l.method.toList ∧ OnOneLine l.coordinate) ∧
      ∀ l ∈ b.extraLines, OnOneLine l)
    ⟨fun ⟨h₁, h₂, h₃, h₄, h₅, h₆, h₇, h₈⟩ => ⟨h₁, h₂, h₃, h₄, h₅, h₆, h₇, h₈⟩,
      fun ⟨h₁, h₂, h₃, h₄, h₅, h₆, h₇, h₈⟩ => ⟨h₁, h₂, h₃, h₄, h₅, h₆, h₇, h₈⟩⟩

variable {a b : Blueprint}

open Statement

/-! ### Single statements -/

/-- The configuration says whether the module is an application, under which package, and the
levels that it runs on. -/
theorem content_of_flat_defaultConfig_eq (h : a.defaultConfig.flat = b.defaultConfig.flat) :
    a.isApplication = b.isApplication ∧ (a.isApplication = true → a.package = b.package) ∧
      a.minSdk = b.minSdk ∧ a.targetSdk = b.targetSdk := by
  simp only [defaultConfig, flat, flatAll_eq_map, block.injEq, true_and] at h
  cases ha : a.isApplication <;> cases hb : b.isApplication <;>
    simp only [applicationId, ha, hb, if_true, if_false, Bool.false_eq_true] at h
  · simp only [List.nil_append, List.map_cons, flat, List.cons.injEq, line.injEq,
      String.append_right_inj] at h
    exact ⟨rfl, by simp, eq_of_toString_eq h.1, eq_of_toString_eq h.2.1⟩
  · simpa using congrArg List.length h
  · simpa using congrArg List.length h
  · simp only [List.cons_append, List.nil_append, List.map_cons, flat, List.cons.injEq, line.injEq,
      String.append_right_inj, doubleQuoted, String.append_left_inj] at h
    exact ⟨rfl, fun _ => h.1, eq_of_toString_eq h.2.1, eq_of_toString_eq h.2.2.1⟩

/-- The block of the build types says what they are called and which lines their bodies have. -/
theorem content_of_flat_buildTypesBlock_eq (h : a.buildTypesBlock.flat = b.buildTypesBlock.flat) :
    a.buildTypes.map (fun t => (t.name, Text.lines t.body)) =
      b.buildTypes.map fun t => (t.name, Text.lines t.body) := by
  simp only [buildTypesBlock, flat, flatAll_eq_map, List.map_cons, List.map_map, block.injEq,
    List.cons.injEq, true_and] at h
  refine map_eq_map_of_imp (fun t _ u _ e => ?_) h
  simp only [Function.comp, buildTypeBlock, flat, flatAll_eq_map, List.map_map, block.injEq] at e
  have lines := (List.map_inj_right (by simp [flat])).1 e.2
  rw [e.1, lines]

theorem eq_of_flat_flavorBlock_eq {f g : Flavor} (h : (flavorBlock f).flat = (flavorBlock g).flat) :
    f = g := by
  obtain ⟨name, dimension⟩ := f
  obtain ⟨name', dimension'⟩ := g
  simp only [flavorBlock, flat, flatAll_eq_map, List.map_map, block.injEq] at h
  cases dimension <;> cases dimension' <;>
    simp_all [flat, doubleQuoted, String.append_right_inj]

theorem flavorDimensions_eq_of_flat_dimensionsLine_eq
    (ha : ∀ d ∈ a.flavorDimensions.toList, '"' ∉ d.toList)
    (hb : ∀ d ∈ b.flavorDimensions.toList, '"' ∉ d.toList)
    (h : flatAll a.dimensionsLine = flatAll b.dimensionsLine) :
    a.flavorDimensions = b.flavorDimensions := by
  apply NameSet.ext
  cases ea : a.flavorDimensions.isEmpty <;> cases eb : b.flavorDimensions.isEmpty <;>
    simp only [dimensionsLine, ea, eb, if_true, if_false, Bool.false_eq_true, flatAll, flat,
      List.cons.injEq, line.injEq, String.append_right_inj, and_true, reduceCtorEq] at h
  · exact eq_of_join_doubleQuoted_eq ha hb h
  · simp only [NameSet.isEmpty, List.isEmpty_iff] at ea eb
    rw [ea, eb]

/-- The section on flavors says which dimensions and flavors there are. Without any of them it is
empty; otherwise it ends with the block of the flavors. -/
theorem content_of_flat_flavorSection_eq (ha : ∀ d ∈ a.flavorDimensions.toList, '"' ∉ d.toList)
    (hb : ∀ d ∈ b.flavorDimensions.toList, '"' ∉ d.toList)
    (h : flatAll a.flavorSection = flatAll b.flavorSection) :
    a.flavorDimensions = b.flavorDimensions ∧ a.flavors = b.flavors := by
  have none {c : Blueprint} (hc : c.hasFlavorSection = false) :
      c.flavorDimensions = ∅ ∧ c.flavors = [] := by
    simp only [hasFlavorSection, NameSet.isEmpty, Bool.or_eq_false_iff, Bool.not_eq_false',
      List.isEmpty_iff] at hc
    exact ⟨NameSet.ext hc.2, hc.1⟩
  cases ea : a.hasFlavorSection <;> cases eb : b.hasFlavorSection <;>
    simp only [flavorSection, ea, eb, if_true, if_false, Bool.false_eq_true, flatAll_eq_map,
      List.map_append, List.map_cons, List.map_nil] at h
  · exact ⟨(none ea).1.trans (none eb).1.symm, (none ea).2.trans (none eb).2.symm⟩
  · simp at h
  · simp at h
  · obtain ⟨dimensions, flavors⟩ := List.append_inj' h rfl
    simp only [flat, flatAll_eq_map, List.map_map, List.cons.injEq, block.injEq, and_true,
      true_and] at flavors
    rw [← flatAll_eq_map, ← flatAll_eq_map] at dimensions
    exact ⟨flavorDimensions_eq_of_flat_dimensionsLine_eq ha hb dimensions,
      (List.map_inj_right fun _ _ => eq_of_flat_flavorBlock_eq).1 flavors⟩

/-- The block of the module says everything but its plugins, dependencies and extra lines. -/
theorem content_of_flatAll_androidStatements_eq
    (h : flatAll a.androidStatements = flatAll b.androidStatements) :
    a.compileSdk = b.compileSdk ∧ a.defaultConfig.flat = b.defaultConfig.flat ∧
      a.buildTypesBlock.flat = b.buildTypesBlock.flat ∧ a.dataBinding = b.dataBinding ∧
      flatAll a.flavorSection = flatAll b.flavorSection := by
  simp only [androidStatements, flatAll_eq_map, List.map_append, List.map_cons, List.cons_append,
    List.nil_append, List.map_nil, List.cons.injEq, flat, line.injEq,
    String.append_right_inj] at h ⊢
  obtain ⟨compile, config, types, rest⟩ := h
  refine ⟨eq_of_toString_eq compile, config, types, ?_⟩
  cases ha : a.dataBinding <;> cases hb : b.dataBinding <;>
    simp [dataBindingBlock, ha, hb, compileOptions, flat] at rest ⊢
  · exact rest
  · exact rest

/-! ### Dependencies -/

theorem eq_of_flat_moduleLine_eq {d e : ModuleDependency} (hd : ' ' ∉ d.method.toList)
    (he : ' ' ∉ e.method.toList) (h : (moduleLine d).flat = (moduleLine e).flat) : d = e := by
  obtain ⟨method, module⟩ := d
  obtain ⟨method', module'⟩ := e
  simp only [moduleLine, flat, line.injEq] at h
  obtain ⟨rfl, h⟩ := eq_of_word_append_eq hd he h
  simpa [String.append_right_inj] using h

theorem eq_of_flat_libraryLine_eq {l k : LibraryDependency} (hl : ' ' ∉ l.method.toList)
    (hk : ' ' ∉ k.method.toList) (h : (libraryLine l).flat = (libraryLine k).flat) : l = k := by
  obtain ⟨method, coordinate⟩ := l
  obtain ⟨method', coordinate'⟩ := k
  simp only [libraryLine, flat, line.injEq] at h
  obtain ⟨rfl, e⟩ := eq_of_word_append_eq hl hk h
  rw [doubleQuoted_inj e]

/-- A module is not quoted like a library. -/
theorem flat_moduleLine_ne_flat_libraryLine {d : ModuleDependency} {l : LibraryDependency}
    (hd : ' ' ∉ d.method.toList) (hl : ' ' ∉ l.method.toList) :
    (moduleLine d).flat ≠ (libraryLine l).flat := by
  intro h
  simp only [moduleLine, libraryLine, flat, line.injEq] at h
  have h' := congrArg String.toList (eq_of_word_append_eq hd hl h).2
  simp [doubleQuoted] at h'

/-- The block of the dependencies says which they are. The modules end where the first library
stands. -/
theorem content_of_flatAll_dependencyStatements_eq (ha : a.Plain) (hb : b.Plain)
    (h : flatAll a.dependencyStatements = flatAll b.dependencyStatements) :
    a.dependencies = b.dependencies ∧ a.libraries = b.libraries := by
  simp only [dependencyStatements, flatAll_eq_map, List.map_cons, List.map_append, List.map_map,
    List.cons.injEq, true_and] at h
  let IsModule (s : Statement) := ∃ d : ModuleDependency, ' ' ∉ d.method.toList ∧
    s = (moduleLine d).flat
  have modules {c : Blueprint} (hc : c.Plain) :
      ∀ s ∈ c.dependencies.map (flat ∘ moduleLine), IsModule s := by
    intro s hs
    obtain ⟨d, hd, rfl⟩ := List.mem_map.1 hs
    exact ⟨d, (hc.dependencies d hd).2.1, rfl⟩
  have libraries {c : Blueprint} (hc : c.Plain) :
      ∀ s ∈ (c.libraries.map (flat ∘ libraryLine)).head?, ¬ IsModule s := by
    rintro s hs ⟨d, hd, e⟩
    obtain ⟨l, hl, rfl⟩ := List.mem_map.1 (List.mem_of_mem_head? hs)
    exact flat_moduleLine_ne_flat_libraryLine hd (hc.libraries l hl).2.1 e.symm
  -- the lines of modules are a run that no line of a library goes on with
  obtain ⟨e, e'⟩ := append_inj_of_run (modules ha) (modules hb) (libraries ha) (libraries hb) h
  constructor
  · simpa using map_eq_map_of_imp (g := id) (fun d hd e he =>
      eq_of_flat_moduleLine_eq (ha.dependencies d hd).2.1 (hb.dependencies e he).2.1) e
  · simpa using map_eq_map_of_imp (g := id) (fun l hl k hk =>
      eq_of_flat_libraryLine_eq (ha.libraries l hl).2.1 (hb.libraries k hk).2.1) e'

/-! ### What a plain blueprint writes -/

theorem plain_defaultConfig (h : OnOneLine b.package) : b.defaultConfig.Plain := by
  rw [defaultConfig, plain_block, List.forall_mem_append]
  refine ⟨by decide, ?_, ?_⟩
  · exact forall_mem_applicationId fun _ => plain_keyValue.2 ⟨by decide, onOneLine_doubleQuoted h⟩
  · simp only [List.forall_mem_cons, plain_keyValue, onOneLine_toString, and_true]
    decide

theorem plain_buildTypesBlock (h : ∀ t ∈ b.buildTypes, OnOneLine t.name) :
    b.buildTypesBlock.Plain := by
  rw [buildTypesBlock, plain_block, List.forall_mem_cons]
  refine ⟨by decide, by decide, ?_⟩
  intro s hs
  obtain ⟨t, ht, rfl⟩ := List.mem_map.1 hs
  rw [buildTypeBlock, plain_block]
  refine ⟨h t ht, ?_⟩
  intro s hs
  obtain ⟨l, hl, rfl⟩ := List.mem_map.1 hs
  exact plain_line.2 (onOneLine_of_mem_lines hl)

theorem plain_flavorBlock {f : Flavor} (name : OnOneLine f.name)
    (dimension : ∀ d ∈ f.dimension, OnOneLine d) : (flavorBlock f).Plain := by
  refine plain_block.2 ⟨name, ?_⟩
  intro s hs
  obtain ⟨d, hd, rfl⟩ := List.mem_map.1 hs
  exact plain_keyValue.2
    ⟨by decide, onOneLine_doubleQuoted (dimension d (Option.mem_toList.1 hd))⟩

theorem plain_of_mem_androidStatements (h : b.Plain) : ∀ s ∈ b.androidStatements, s.Plain := by
  apply forall_mem_androidStatements
  · exact plain_keyValue.2 ⟨by decide, onOneLine_toString _⟩
  · exact plain_defaultConfig h.package
  · exact plain_buildTypesBlock h.buildTypes
  · decide
  · decide
  · intro _
    refine plain_keyValue.2 ⟨by decide, onOneLine_join ?_⟩
    intro l hl
    obtain ⟨d, hd, rfl⟩ := List.mem_map.1 hl
    exact onOneLine_doubleQuoted (h.flavorDimensions d hd).1
  · refine plain_block.2 ⟨by decide, List.forall_mem_map.2 ?_⟩
    intro f hf
    exact plain_flavorBlock (h.flavors f hf).1 (h.flavors f hf).2

theorem plain_of_mem_dependencyStatements (h : b.Plain) :
    ∀ s ∈ b.dependencyStatements, s.Plain := by
  apply forall_mem_dependencyStatements
  · decide
  · intro d hd
    obtain ⟨method, -, module⟩ := h.dependencies d hd
    have front : OnOneLine "project(':" := by decide
    exact plain_keyValue.2 ⟨method, (front.append module).append (by decide)⟩
  · intro l hl
    obtain ⟨method, -, coordinate⟩ := h.libraries l hl
    exact plain_keyValue.2 ⟨method, onOneLine_doubleQuoted coordinate⟩

/-- The texts of a plain blueprint's script have no newline: those that are not fixed are numbers,
names, and lines of bodies. -/
theorem plain_of_mem_script (h : b.Plain) : ∀ s ∈ b.script.statements, s.Plain := by
  apply forall_mem_statements
  · intro p hp
    have quote : OnOneLine "'" := by decide
    exact plain_keyValue.2 ⟨by decide, (quote.append (h.plugins p hp)).append quote⟩
  · exact plain_block.2 ⟨by decide, plain_of_mem_androidStatements h⟩
  · exact plain_block.2 ⟨by decide, plain_of_mem_dependencyStatements h⟩
  · intro l hl
    exact plain_line.2 (h.extraLines l hl)

/-! ### Where blocks can stand -/

theorem legible_defaultConfig (b : Blueprint) : b.defaultConfig.Legible (· < 3) 1 := by
  refine ⟨by decide, legibleAll_iff.2 (List.forall_mem_append.2 ⟨?_, ?_⟩)⟩
  · exact forall_mem_applicationId fun _ _ => not_isOpening_doubleQuoted _ _
  · simp only [List.forall_mem_cons, Legible, not_isOpening_toString, not_isOpening_doubleQuoted]
    exact ⟨by simp, by simp, fun _ => by decide, by simp, fun _ => by decide, by simp, by simp⟩

theorem legible_buildTypesBlock (b : Blueprint) : b.buildTypesBlock.Legible (· < 3) 1 := by
  refine ⟨by decide, legibleAll_iff.2 (List.forall_mem_cons.2 ⟨?_, List.forall_mem_map.2 ?_⟩)⟩
  · exact ⟨by decide, fun _ => by decide, fun _ => by decide, trivial⟩
  · intro t _
    refine ⟨by decide, legibleAll_iff.2 (List.forall_mem_map.2 ?_)⟩
    -- the lines of a body are at depth 3, where no block can start
    intro l _ h
    exact absurd h (by decide)

theorem legible_flavorBlock (f : Flavor) : (flavorBlock f).Legible (· < 3) 2 := by
  refine ⟨by decide, legibleAll_iff.2 (List.forall_mem_map.2 ?_)⟩
  intro d _ h
  exact absurd h (by decide)

/-- Blocks stand in the `android` block at depths 1 and 2 only, and no other statement there reads
like one. -/
theorem legible_of_mem_androidStatements (b : Blueprint) :
    ∀ s ∈ b.androidStatements, s.Legible (· < 3) 1 := by
  apply forall_mem_androidStatements
  · exact fun _ => not_isOpening_toString _ _
  · exact b.legible_defaultConfig
  · exact b.legible_buildTypesBlock
  · exact ⟨by decide, fun _ => by decide, trivial⟩
  · exact ⟨by decide, fun _ => by decide, fun _ => by decide, trivial⟩
  · exact fun ne _ => not_isOpening_join_doubleQuoted _ ne
  · refine ⟨by decide, legibleAll_iff.2 (List.forall_mem_map.2 ?_)⟩
    intro f _
    exact legible_flavorBlock f

/-- There are no blocks among the dependencies. -/
theorem legible_of_mem_dependencyStatements (b : Blueprint) :
    ∀ s ∈ b.dependencyStatements, s.Legible (fun _ => False) 1 :=
  forall_mem_dependencyStatements (fun h => h.elim) (fun _ _ h => h.elim) fun _ _ h => h.elim

/-! ### The whole script -/

variable {indent : Indent}

/-- The lines between the braces of a block at depth 0. -/
def linesBetween (indent : Indent) (ss : List Statement) : List String :=
  (between (piecesAll 1 ss)).map (Piece.render indent 0)

/-- The lines of a script: one for each plugin, the two blocks, and the extra lines. -/
theorem lines_script (indent : Indent) (b : Blueprint) :
    b.script.lines indent =
      b.plugins.toList.map (fun p => "apply plugin:" ++ " " ++ singleQuoted p) ++
        opening "android" :: (linesBetween indent b.androidStatements ++
          (indent.times 0 ++ closing) :: opening "dependencies" ::
            (linesBetween indent b.dependencyStatements ++
              (indent.times 0 ++ closing) :: b.extraLines)) := by
  have plugins (ps : List String) : (piecesAll 0 (ps.map applyPlugin)).map (Piece.render indent 0) =
      ps.map fun p => "apply plugin:" ++ " " ++ singleQuoted p := by
    induction ps with
    | nil => rfl
    | cons p ps ih => simp [applyPlugin, Statement.pieces, Piece.render, ih]
  have extra (ls : List String) :
      (piecesAll 0 (ls.map Statement.line)).map (Piece.render indent 0) = ls := by
    induction ls with
    | nil => rfl
    | cons l ls ih => simp [Statement.pieces, Piece.render, ih]
  simp only [Script.lines, Script.pieces, script, piecesAll_append, List.map_append, plugins, extra,
    piecesAll_cons, Statement.pieces, linesBetween, List.map_cons, List.cons_append,
    List.nil_append, List.append_assoc, Piece.render, Indent.times_zero, String.empty_append,
    Nat.zero_add]

/-- The lines of a script fall into those of its parts. -/
theorem parts_of_lines_eq (hu : indent.unit ≠ "")
    (h : a.script.lines indent = b.script.lines indent) :
    a.plugins = b.plugins ∧ flatAll a.androidStatements = flatAll b.androidStatements ∧
      flatAll a.dependencyStatements = flatAll b.dependencyStatements ∧
      a.extraLines = b.extraLines := by
  rw [lines_script, lines_script] at h
  have plugin (c : Blueprint) :
      ∀ l ∈ c.plugins.toList.map (fun p => "apply plugin:" ++ " " ++ singleQuoted p),
        l ≠ opening "android" := by
    intro l hl e
    obtain ⟨p, -, rfl⟩ := List.mem_map.1 hl
    have e' := congrArg String.toList e
    simp [opening] at e'
  -- the plugins end at the line that starts the `android` block, and each block at its last line
  obtain ⟨plugins, -, h⟩ := append_cons_inj_of_run (plugin a) (plugin b) (by simp) (by simp) h
  obtain ⟨android, h⟩ := lines_eq_of_block_eq hu h
  obtain ⟨dependencies, extra⟩ := lines_eq_of_block_eq hu (List.cons.inj h).2
  refine ⟨NameSet.ext ?_, ?_, ?_, extra⟩
  · refine (List.map_inj_right ?_).1 plugins
    intro p q e
    exact singleQuoted_inj ((String.append_right_inj _).1 e)
  · exact flatAll_eq_of_lines_eq hu 1 _ _ (legibleAll_iff.2 (legible_of_mem_androidStatements a))
      (legibleAll_iff.2 (legible_of_mem_androidStatements b)) android
  · exact flatAll_eq_of_lines_eq hu 1 _ _
      (legibleAll_iff.2 (legible_of_mem_dependencyStatements a))
      (legibleAll_iff.2 (legible_of_mem_dependencyStatements b)) dependencies

/-- **A text loses no content**: plain blueprints whose build scripts have the same text, under a
unit of indentation that is not empty, have the same content. -/
theorem sameContent_of_render_eq (hu : indent.unit ≠ "") (ha : a.Plain) (hb : b.Plain)
    (h : a.render indent = b.render indent) : a.SameContent b := by
  have texts {c : Blueprint} (hc : c.Plain) : ∀ t ∈ textsAll c.script.statements, OnOneLine t := by
    intro t ht
    obtain ⟨s, hs, ht⟩ := mem_textsAll.1 ht
    exact plain_of_mem_script hc s hs t ht
  have ne (c : Blueprint) : c.script.statements ≠ [] := by simp [script]
  -- from the text to the lines, from the lines to the parts, and from each part to its content
  obtain ⟨plugins, android, dependencies, extraLines⟩ :=
    parts_of_lines_eq hu (Script.lines_eq_of_render_eq (texts ha) (texts hb) (ne a) (ne b) h)
  obtain ⟨compileSdk, config, types, dataBinding, flavors⟩ :=
    content_of_flatAll_androidStatements_eq android
  obtain ⟨isApplication, package, minSdk, targetSdk⟩ := content_of_flat_defaultConfig_eq config
  obtain ⟨flavorDimensions, flavors⟩ := content_of_flat_flavorSection_eq
    (fun d hd => (ha.flavorDimensions d hd).2) (fun d hd => (hb.flavorDimensions d hd).2) flavors
  obtain ⟨dependencies, libraries⟩ := content_of_flatAll_dependencyStatements_eq ha hb dependencies
  have buildTypes := content_of_flat_buildTypesBlock_eq types
  exact ⟨compileSdk, minSdk, targetSdk, isApplication, package, plugins, buildTypes, dataBinding,
    flavorDimensions, flavors, dependencies, libraries, extraLines⟩

/-- A blueprint whose texts look like parts of a script. -/
def braces (path body : String) : Blueprint :=
  (Blueprint.new "com.example.app" path 28 21 28).editAll
    [.addPlugin ("android ".push '{'), .addBuildType ⟨"qa", body⟩, .addBuildType ⟨"", ""⟩,
      .addFlavor ⟨.singleton '}', some "tier"⟩, .addDependency ⟨"", "\"a\""⟩,
      .addLibrary ⟨"api", "\""⟩, .addExtraLine ("dependencies ".push '{')]

/-- A body whose two lines look like an empty block, with what ends the first one. -/
def bracesBody (lineEnd : String) : String := "x ".push '{' ++ lineEnd.push '}'

/-- The lines of a body are recovered also if they look like the end of its block. -/
theorem sameContent_braces :
    Indent.tab.unit ≠ "" ∧ (braces "app" (bracesBody "\r\n")).Plain ∧
      (braces "lib" (bracesBody "\n" ++ "\n")).Plain ∧
      (braces "app" (bracesBody "\r\n")).render .tab =
        (braces "lib" (bracesBody "\n" ++ "\n")).render .tab ∧
      (braces "app" (bracesBody "\r\n")).SameContent (braces "lib" (bracesBody "\n" ++ "\n")) := by
  have hu : Indent.tab.unit ≠ "" := by decide
  have ha : (braces "app" (bracesBody "\r\n")).Plain := by decide
  have hb : (braces "lib" (bracesBody "\n" ++ "\n")).Plain := by decide
  have h : (braces "app" (bracesBody "\r\n")).render .tab =
      (braces "lib" (bracesBody "\n" ++ "\n")).render .tab := by decide +kernel
  exact ⟨hu, ha, hb, h, sameContent_of_render_eq hu ha hb h⟩

end Blueprint

end GradleScript
