import GradleScript.Lint
import GradleScript.Proofs.Blueprint.Parts
import GradleScript.Proofs.Load.Stages
import GradleScript.Proofs.Schema.Parts
import GradleScript.Proofs.Script.Texts

/-!
# Scripts of blueprints that are loaded and lint clean

A script is well formed if no two blocks side by side have the same name, no plugin is applied
twice, the platform levels are in order, and flavors keep to the dimensions that are listed. The
loader and the lints look at the blueprint and not at its script; together they make sure that the
script is well formed.

## Main definitions

* `Script.scopes`: the lists of statements that stand side by side, at every depth
* `blockNames`, `valuesOf`: the names of the blocks and the values of a key in such a list
* `Script.WellFormed`: the well-formed scripts

## Main results

* `Blueprint.Sound.wellFormed`: what the loader and the lints check makes a script well formed
* `Blueprint.wellFormed_of_load`: a blueprint that is loaded and lint clean has a well-formed script
-/

namespace GradleScript

open Toml

namespace Statement

mutual

/-- The lists of statements that stand side by side in a statement: the children of its blocks, at
every depth. -/
def scopes : Statement → List (List Statement)
  | .line _ => []
  | .keyValue .. => []
  | .block _ children => children :: scopesAll children

/-- The same for several statements. -/
def scopesAll : List Statement → List (List Statement)
  | [] => []
  | s :: rest => scopes s ++ scopesAll rest

end

theorem forall_mem_scopesAll {P : List Statement → Prop} {ss : List Statement} :
    (∀ scope ∈ scopesAll ss, P scope) ↔ ∀ s ∈ ss, ∀ scope ∈ s.scopes, P scope := by
  induction ss with
  | nil => simp [scopesAll]
  | cons s rest ih => simp only [scopesAll, List.forall_mem_append, List.forall_mem_cons, ih]

theorem mem_scopesAll {scope : List Statement} {ss : List Statement} :
    scope ∈ scopesAll ss ↔ ∃ s ∈ ss, scope ∈ s.scopes := by
  induction ss with
  | nil => simp [scopesAll]
  | cons s rest ih => simp only [scopesAll, List.mem_append, List.mem_cons, ih,
      or_and_right, exists_or, exists_eq_left]

/-- The children of a block stand side by side one level deeper. -/
theorem children_mem_scopesAll {ss children : List Statement} {name : String}
    (h : .block name children ∈ ss) : children ∈ scopesAll ss :=
  mem_scopesAll.2 ⟨_, h, by rw [scopes]; exact .head _⟩

mutual

theorem children_mem_scopes {scope children : List Statement} {name : String}
    (hb : .block name children ∈ scope) : (s : Statement) → scope ∈ s.scopes → children ∈ s.scopes
  | .line _, h | .keyValue .., h => by simp [scopes] at h
  | .block _ ss, h => by
    rw [scopes] at h ⊢
    rcases List.mem_cons.1 h with rfl | h
    · exact .tail _ (children_mem_scopesAll hb)
    · exact .tail _ (children_mem_scopesAll_of_mem hb ss h)

theorem children_mem_scopesAll_of_mem {scope children : List Statement} {name : String}
    (hb : .block name children ∈ scope) :
    (ss : List Statement) → scope ∈ scopesAll ss → children ∈ scopesAll ss
  | [], h => by simp [scopesAll] at h
  | s :: rest, h => by
    rw [scopesAll, List.mem_append] at h ⊢
    exact h.imp (children_mem_scopes hb s) (children_mem_scopesAll_of_mem hb rest)

end

end Statement

/-- The lists of statements that stand side by side in a script. -/
def Script.scopes (script : Script) : List (List Statement) :=
  script.statements :: Statement.scopesAll script.statements

theorem Script.statements_mem_scopes (script : Script) : script.statements ∈ script.scopes :=
  .head _

/-- The children of a block are among the lists of statements of the script that the block is in. -/
theorem Script.children_mem_scopes {script : Script} {scope children : List Statement}
    {n : String} (hs : scope ∈ script.scopes) (hb : .block n children ∈ scope) :
    children ∈ script.scopes := by
  rw [scopes] at hs ⊢
  rcases List.mem_cons.1 hs with rfl | hs
  · exact .tail _ (Statement.children_mem_scopesAll hb)
  · exact .tail _ (Statement.children_mem_scopesAll_of_mem hb _ hs)

/-- The name of a statement that is a block. -/
def Statement.blockName? : Statement → Option String
  | .block name _ => some name
  | _ => none

/-- The value of a statement that has this key. -/
def Statement.valueOf? (key : String) : Statement → Option String
  | .keyValue k value => if k = key then some value else none
  | _ => none

/-- The names of the blocks among some statements. -/
def blockNames (ss : List Statement) : List String := ss.filterMap Statement.blockName?

/-- The values of a key among some statements. -/
def valuesOf (key : String) (ss : List Statement) : List String :=
  ss.filterMap (Statement.valueOf? key)

/-- A well-formed script, when these are the declared dimensions. -/
structure Script.WellFormed (declared : NameSet) (script : Script) : Prop where
  /-- At no depth do two blocks with the same name stand side by side. -/
  names : ∀ scope ∈ script.scopes, (blockNames scope).Nodup
  /-- No plugin is applied twice. -/
  plugins : (valuesOf "apply plugin:" script.statements).Nodup
  /-- The lowest level is at most the target level, and that is at most the level that is compiled
  against. -/
  levels : ∃ android config, script.block? "android" = some android ∧
    findBlock "defaultConfig" android = some config ∧ ∃ min target compile : Nat,
      valuesOf "minSdkVersion" config = [toString min] ∧
      valuesOf "targetSdkVersion" config = [toString target] ∧
      valuesOf "compileSdkVersion" android = [toString compile] ∧
      min ≤ target ∧ target ≤ compile
  /-- The dimension of a flavor is declared, and the dimensions are listed before the flavors if a
  flavor has one. -/
  dimensions : ∀ android flavors, script.block? "android" = some android →
    findBlock "productFlavors" android = some flavors →
    ∀ name children, .block name children ∈ flavors → ∀ value ∈ valuesOf "dimension" children,
      (∃ d ∈ declared, value = doubleQuoted d) ∧
      valuesOf "flavorDimensions" android =
        [", ".intercalate (declared.toList.map doubleQuoted)]

/-- What the loader and the lints check of a blueprint. -/
structure Blueprint.Sound (b : Blueprint) : Prop where
  buildTypes : (Blueprint.releaseBuildType :: b.buildTypes.map (·.name)).Nodup
  flavors : (b.flavors.map (·.name)).Nodup
  min_le_target : b.minSdk ≤ b.targetSdk
  target_le_compile : b.targetSdk ≤ b.compileSdk
  dimensions : ∀ f ∈ b.flavors, ∀ d ∈ f.dimension, d ∈ b.flavorDimensions

/-! ## What is checked -/

/-- Names of which none has a second mention are distinct. -/
theorem nodup_of_secondMentions_eq_nil {before names : List String} (hb : before.Nodup)
    (h : secondMentions before names = []) : names.Nodup ∧ ∀ name ∈ names, name ∉ before := by
  induction names generalizing before with
  | nil => simp
  | cons name rest ih =>
    rw [secondMentions] at h
    split at h
    · simp at h
    · next hc =>
      -- a name that stands before would be there exactly once, and this would be its second mention
      have new : name ∉ before := by
        intro hm
        rw [List.Nodup.count hb, if_pos hm] at hc
        exact hc rfl
      obtain ⟨hr, hd⟩ := ih (List.nodup_cons.2 ⟨new, hb⟩) h
      refine ⟨List.nodup_cons.2 ⟨fun hm => hd name hm List.mem_cons_self, hr⟩, ?_⟩
      intro n hn
      rcases List.mem_cons.1 hn with rfl | hn
      · exact new
      · exact fun hm => hd n hn (List.mem_cons_of_mem _ hm)

/-- The keys that are read from a table with any keys are distinct; none are there if nothing is
written. -/
theorem Schema.nodup_of_fill?_map {item : Schema} {slot : Option Value}
    (distinct : ∀ v ∈ slot, v.Distinct) {as : List (String × item.Carrier)}
    (h : (Schema.map item).fill? slot = some as) : (as.map (·.1)).Nodup := by
  cases slot with
  | none =>
    obtain rfl : [] = as := Option.some.inj h
    simp
  | some v =>
    have h := Except.toOption_eq_some_iff.1 h
    unfold decode at h
    split at h
    · next table =>
      rw [map_fst_of_readEntries h]
      exact (distinct v rfl).nodup_of_asTable? table
    · simp at h

theorem map_name_ofEntry (types : List (String × buildTypeSchema.Carrier)) :
    (types.map BuildType.ofEntry).map (·.name) = types.map (·.1) := by
  rw [List.map_map]
  rfl

namespace Blueprint

variable {b : Blueprint}

/-- The build types of a document have distinct names. -/
theorem nodup_buildTypes_of_decode {document : Value} (distinct : document.Distinct)
    (h : decode document = .ok b) : (b.buildTypes.map (·.name)).Nodup := by
  obtain ⟨slots, values, given, filled, rfl⟩ := exists_slots_of_decode distinct h
  obtain ⟨plugins, dims, extra, module, sdk, buildTypes, flavors, dependencies, libraries, ⟨⟩⟩ :=
    values
  obtain ⟨-, -, -, -, -, types, -⟩ := fill?_documentFields_eq_some_iff.1 filled
  exact (map_name_ofEntry buildTypes) ▸ Schema.nodup_of_fill?_map (distinct.slots given 5) types

/-- A blueprint in which no lint finds anything. -/
theorem findings_eq_nil_of_lint (clean : b.lint = []) (l : Lint) : l.findings b = [] := by
  have all : ∀ l ∈ Lint.all, l.findings b = [] := by
    simpa [lint, diagnose, findings] using clean
  exact all l (by cases l <;> decide)

theorem release_notMem_of_findings (h : Lint.duplicateRelease.findings b = []) :
    releaseBuildType ∉ b.buildTypes.map (·.name) := by
  intro hm
  obtain ⟨t, ht, e⟩ := List.mem_map.1 hm
  have any : b.buildTypes.any (·.name == releaseBuildType) = true :=
    List.any_eq_true.2 ⟨t, ht, by simpa using e⟩
  rw [Lint.findings, if_pos any] at h
  exact absurd h (by simp)

theorem mem_flavorDimensions_of_findings (h : Lint.undeclaredDimension.findings b = []) :
    ∀ f ∈ b.flavors, ∀ d ∈ f.dimension, d ∈ b.flavorDimensions := by
  intro f hf d hd
  have declared := List.filterMap_eq_nil_iff.1 h f hf
  rw [Flavor.undeclared?, Option.mem_def.1 hd] at declared
  by_cases hm : d ∈ b.flavorDimensions
  · exact hm
  · simp [hm] at declared

/-- What is loaded and lint clean is sound. -/
theorem sound_of_load {source : Source} (h : load source = .ok b) (clean : b.lint = []) :
    b.Sound := by
  obtain ⟨document, hp, hd, hv⟩ := load_eq_ok_iff.1 h
  obtain ⟨entries, rfl, distinct⟩ := Document.distinct_of_parse hp
  have no_findings := findings_eq_nil_of_lint clean
  -- names are distinct by the loader and two lints, levels in order by the loader and a third one
  refine ⟨?_, ?_, ?_, ?_, ?_⟩
  · exact List.nodup_cons.2 ⟨release_notMem_of_findings (no_findings .duplicateRelease),
      nodup_buildTypes_of_decode (distinct.table _ _) hd⟩
  · have h := no_findings .duplicateFlavor
    exact (nodup_of_secondMentions_eq_nil List.nodup_nil (List.map_eq_nil_iff.1 h)).1
  · rw [violation?] at hv
    split at hv
    · simp at hv
    · split at hv
      · simp at hv
      · next hle => exact UInt32.not_lt.1 hle
  · have h := no_findings .sdkRange
    rw [Lint.findings] at h
    split at h
    · simp at h
    · next hle => exact UInt32.not_lt.1 hle
  · exact mem_flavorDimensions_of_findings (no_findings .undeclaredDimension)

end Blueprint

/-! ## What is written -/

/-- At no depth inside the statement do two blocks with the same name stand side by side. -/
def Statement.DistinctNames (s : Statement) : Prop :=
  ∀ scope ∈ s.scopes, (blockNames scope).Nodup

namespace Statement

theorem distinctNames_of_leaf {s : Statement} (h : s.blockName? = none) : s.DistinctNames := by
  cases s with
  | line text => simp [DistinctNames, scopes]
  | keyValue key value => simp [DistinctNames, scopes]
  | block name children => simp [blockName?] at h

theorem distinctNames_block {name : String} {children : List Statement}
    (names : (blockNames children).Nodup) (each : ∀ s ∈ children, s.DistinctNames) :
    (block name children).DistinctNames := by
  rw [DistinctNames, scopes, List.forall_mem_cons, forall_mem_scopesAll]
  exact ⟨names, each⟩

/-- A block of lines, keys and values. -/
theorem distinctNames_block_of_leaves {name : String} {children : List Statement}
    (leaves : ∀ s ∈ children, s.blockName? = none) : (block name children).DistinctNames := by
  refine distinctNames_block ?_ fun s hs => distinctNames_of_leaf (leaves s hs)
  rw [blockNames, List.filterMap_eq_nil_iff.2 leaves]
  exact List.nodup_nil

end Statement

namespace Blueprint

open Statement

variable {b : Blueprint}

theorem distinctNames_defaultConfig : b.defaultConfig.DistinctNames := by
  refine distinctNames_block_of_leaves (List.forall_mem_append.2 ⟨?_, ?_⟩)
  · exact forall_mem_applicationId fun _ => rfl
  · simp [blockName?]

theorem distinctNames_buildTypesBlock (h : b.Sound) : b.buildTypesBlock.DistinctNames := by
  have names : blockNames (releaseBlock :: b.buildTypes.map buildTypeBlock) =
      releaseBuildType :: b.buildTypes.map (·.name) := by
    simp [blockNames, releaseBlock, Function.comp_def, blockName?, buildTypeBlock]
  refine distinctNames_block (names ▸ h.buildTypes) (List.forall_mem_cons.2 ⟨?_, ?_⟩)
  · exact distinctNames_block_of_leaves (by simp [blockName?])
  · -- the lines of a body are no blocks, whatever they look like
    exact List.forall_mem_map.2 fun t _ => distinctNames_block_of_leaves (by simp [blockName?])

theorem distinctNames_productFlavors (h : b.Sound) :
    (Statement.block "productFlavors" (b.flavors.map flavorBlock)).DistinctNames := by
  have names : blockNames (b.flavors.map flavorBlock) = b.flavors.map (·.name) := by
    simp [blockNames, Function.comp_def, blockName?, flavorBlock]
  refine distinctNames_block (names ▸ h.flavors) (List.forall_mem_map.2 ?_)
  intro f _
  exact distinctNames_block_of_leaves (by simp [blockName?])

/-- The blocks in the `android` block, two of which may be left out. -/
theorem blockNames_androidStatements : blockNames b.androidStatements =
    ["defaultConfig", "buildTypes"] ++ (if b.dataBinding then ["dataBinding"] else []) ++
      ["compileOptions"] ++ if b.hasFlavorSection then ["productFlavors"] else [] := by
  have first : [.keyValue "compileSdkVersion" (toString b.compileSdk.toNat), b.defaultConfig,
      b.buildTypesBlock].filterMap blockName? = ["defaultConfig", "buildTypes"] := rfl
  have binding : b.dataBindingBlock.filterMap blockName? =
      if b.dataBinding then ["dataBinding"] else [] := by
    unfold dataBindingBlock
    split <;> rfl
  have options : [compileOptions].filterMap blockName? = ["compileOptions"] := rfl
  have flavors : b.flavorSection.filterMap blockName? =
      if b.hasFlavorSection then ["productFlavors"] else [] := by
    have dimensions : b.dimensionsLine.filterMap blockName? = [] :=
      List.filterMap_eq_nil_iff.2 (forall_mem_dimensionsLine fun _ => rfl)
    unfold flavorSection
    split
    · simp [dimensions, blockName?]
    · rfl
  simp only [blockNames, androidStatements, List.filterMap_append, first, binding, options, flavors]

theorem distinctNames_android (h : b.Sound) :
    (Statement.block "android" b.androidStatements).DistinctNames := by
  -- the blocks are some of five that have different names
  have names : (blockNames b.androidStatements).Nodup := by
    rw [blockNames_androidStatements]
    split <;> split <;> decide
  refine distinctNames_block names ?_
  apply forall_mem_androidStatements
  · exact distinctNames_of_leaf rfl
  · exact distinctNames_defaultConfig
  · exact distinctNames_buildTypesBlock h
  · exact distinctNames_block_of_leaves (by simp [blockName?])
  · exact distinctNames_block_of_leaves (by simp [blockName?])
  · exact fun _ => distinctNames_of_leaf rfl
  · exact distinctNames_productFlavors h

theorem blockNames_statements : blockNames b.script.statements = ["android", "dependencies"] := by
  have plugins : (b.plugins.toList.map applyPlugin).filterMap blockName? = [] :=
    List.filterMap_eq_nil_iff.2 (List.forall_mem_map.2 fun _ _ => rfl)
  have extra : (b.extraLines.map Statement.line).filterMap blockName? = [] :=
    List.filterMap_eq_nil_iff.2 (List.forall_mem_map.2 fun _ _ => rfl)
  simp only [blockNames, script, List.filterMap_append, plugins, extra]
  simp [blockName?]

theorem distinctNames_script (h : b.Sound) :
    ∀ scope ∈ b.script.scopes, (blockNames scope).Nodup := by
  rw [Script.scopes, List.forall_mem_cons, forall_mem_scopesAll]
  refine ⟨?_, ?_⟩
  · rw [blockNames_statements]
    decide
  · apply forall_mem_statements
    · exact fun _ _ => distinctNames_of_leaf rfl
    · exact distinctNames_android h
    · refine distinctNames_block_of_leaves ?_
      exact forall_mem_dependencyStatements rfl (fun _ _ => rfl) fun _ _ => rfl
    · exact fun _ _ => distinctNames_of_leaf rfl

/-! ### Values and blocks -/

theorem findBlock_append_of_leaves {name : String} {ss ts : List Statement}
    (h : ∀ s ∈ ss, s.blockName? = none) : findBlock name (ss ++ ts) = findBlock name ts := by
  induction ss with
  | nil => rfl
  | cons s rest ih =>
    have hr := ih fun s hs => h s (List.mem_cons_of_mem _ hs)
    have hs := h s List.mem_cons_self
    cases s with
    | line text => exact hr
    | keyValue key value => exact hr
    | block n children => simp [blockName?] at hs

theorem block?_android : b.script.block? "android" = some b.androidStatements := by
  rw [Script.block?, script, List.append_assoc, findBlock_append_of_leaves]
  · simp [findBlock]
  · simp [applyPlugin, blockName?]

/-- The flavors are in a block of their own if the script has a section on them. -/
theorem findBlock_productFlavors : findBlock "productFlavors" b.androidStatements =
    if b.hasFlavorSection then some (b.flavors.map flavorBlock) else none := by
  have skipped : findBlock "productFlavors" b.androidStatements =
      findBlock "productFlavors" b.flavorSection := by
    unfold androidStatements dataBindingBlock
    split <;> simp [findBlock, defaultConfig, buildTypesBlock, compileOptions]
  rw [skipped, flavorSection]
  split
  · rw [findBlock_append_of_leaves (forall_mem_dimensionsLine fun _ => rfl)]
    simp [findBlock]
  · rfl

theorem valuesOf_applyPlugin :
    valuesOf "apply plugin:" b.script.statements = b.plugins.toList.map singleQuoted := by
  have plugins : (b.plugins.toList.map applyPlugin).filterMap (valueOf? "apply plugin:") =
      b.plugins.toList.map singleQuoted := by
    simp [applyPlugin, Function.comp_def, valueOf?]
  have extra : (b.extraLines.map Statement.line).filterMap (valueOf? "apply plugin:") = [] :=
    List.filterMap_eq_nil_iff.2 (by simp [valueOf?])
  rw [valuesOf, script]
  simp only [List.filterMap_append, plugins, extra]
  simp [valueOf?]

theorem valuesOf_flavorSection {key : String} (h : key ≠ "flavorDimensions") :
    valuesOf key b.flavorSection = [] := by
  refine List.filterMap_eq_nil_iff.2 (forall_mem_flavorSection ?_ rfl)
  intro _
  simp [valueOf?, h.symm]

theorem valuesOf_androidStatements (key : String) : valuesOf key b.androidStatements =
    valuesOf key [.keyValue "compileSdkVersion" (toString b.compileSdk.toNat)] ++
      valuesOf key b.flavorSection := by
  have binding : b.dataBindingBlock.filterMap (valueOf? key) = [] := by
    unfold dataBindingBlock
    split <;> simp [valueOf?]
  simp only [valuesOf, androidStatements, List.filterMap_append, binding]
  simp [valueOf?, defaultConfig, buildTypesBlock, compileOptions, List.filterMap_cons]

/-- The shared configuration gives its levels once each. -/
theorem findBlock_defaultConfig : ∃ config,
    findBlock "defaultConfig" b.androidStatements = some config ∧
      valuesOf "minSdkVersion" config = [toString b.minSdk.toNat] ∧
      valuesOf "targetSdkVersion" config = [toString b.targetSdk.toNat] := by
  have found : ∃ config, b.defaultConfig = .block "defaultConfig" config ∧
      valuesOf "minSdkVersion" config = [toString b.minSdk.toNat] ∧
      valuesOf "targetSdkVersion" config = [toString b.targetSdk.toNat] := by
    refine ⟨_, rfl, ?_, ?_⟩
    · unfold applicationId
      split <;> simp [valuesOf, valueOf?]
    · unfold applicationId
      split <;> simp [valuesOf, valueOf?]
  obtain ⟨config, e, levels⟩ := found
  exact ⟨config, by simp [androidStatements, findBlock, e], levels⟩

theorem valuesOf_flavorDimensions {d : String} (h : d ∈ b.flavorDimensions) :
    valuesOf "flavorDimensions" b.androidStatements =
      [", ".intercalate (b.flavorDimensions.toList.map doubleQuoted)] := by
  have some_dimension : b.flavorDimensions.isEmpty = false := by
    rw [NameSet.isEmpty, List.isEmpty_eq_false_iff]
    exact List.ne_nil_of_mem h
  rw [valuesOf_androidStatements, flavorSection, hasFlavorSection, dimensionsLine, some_dimension]
  simp [valuesOf, valueOf?]

/-- The dimensions that are written for a flavor are its own. -/
theorem valuesOf_dimension (f : Flavor) {name value : String} {children : List Statement}
    (h : Statement.block name children = flavorBlock f)
    (hv : value ∈ valuesOf "dimension" children) : ∃ d ∈ f.dimension, value = doubleQuoted d := by
  obtain ⟨rfl, rfl⟩ := Statement.block.inj h
  simpa [valuesOf, valueOf?, eq_comm] using hv

/-- **A sound blueprint has a well-formed script.** -/
theorem Sound.wellFormed (h : b.Sound) : b.script.WellFormed b.flavorDimensions where
  names := distinctNames_script h
  plugins := by
    rw [valuesOf_applyPlugin, List.Nodup, List.pairwise_map]
    exact b.plugins.nodup.imp fun ne e => ne (singleQuoted_inj e)
  levels := by
    obtain ⟨config, hc, min, target⟩ := b.findBlock_defaultConfig
    refine ⟨b.androidStatements, config, block?_android, hc, b.minSdk.toNat, b.targetSdk.toNat,
      b.compileSdk.toNat, min, target, ?_, h.min_le_target, h.target_le_compile⟩
    rw [valuesOf_androidStatements, valuesOf_flavorSection (by decide)]
    simp [valuesOf, valueOf?]
  dimensions := by
    intro android flavors ha hf name children hm value hv
    obtain rfl : b.androidStatements = android := Option.some.inj (block?_android.symm.trans ha)
    rw [findBlock_productFlavors] at hf
    split at hf
    · obtain rfl := Option.some.inj hf
      obtain ⟨f, hfl, e⟩ := List.mem_map.1 hm
      obtain ⟨d, hd, rfl⟩ := valuesOf_dimension f e.symm hv
      have declared := h.dimensions f hfl d hd
      exact ⟨⟨d, declared, rfl⟩, valuesOf_flavorDimensions declared⟩
    · simp at hf

/-- **A blueprint that is loaded and lint clean has a well-formed script.** -/
theorem wellFormed_of_load {source : Source} (h : load source = .ok b) (clean : b.lint = []) :
    b.script.WellFormed b.flavorDimensions :=
  (sound_of_load h clean).wellFormed

/-- A text with a plugin, a declared dimension, two flavors and a build type. -/
def flavoredSource : Source where
  name := "module.toml"
  text := "plugins = [\"p\"]\nflavor-dimensions = [\"t\"]\nflavors = [[\"f\", \"t\"], [\"g\"]]\n" ++
    "module = [\"a\", \"m\"]\nsdk = [3, 1, 2]\n[build-types]\nd = []"

/-- What the text stands for. -/
def flavored : Blueprint :=
  { new "a" "m" 3 1 2 with
    plugins := .ofList ["p"]
    buildTypes := [⟨"d", ""⟩]
    flavorDimensions := .ofList ["t"]
    flavors := [⟨"f", some "t"⟩, ⟨"g", none⟩] }

theorem wellFormed_flavored : load flavoredSource = .ok flavored ∧ flavored.lint = [] ∧
    flavored.script.WellFormed flavored.flavorDimensions := by
  have loaded : load flavoredSource = .ok flavored := by decide +kernel
  have clean : flavored.lint = [] := by decide +kernel
  exact ⟨loaded, clean, wellFormed_of_load loaded clean⟩

end Blueprint

end GradleScript
