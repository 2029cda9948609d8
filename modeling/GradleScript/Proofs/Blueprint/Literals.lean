import GradleScript.Proofs.Blueprint.WellFormed
import GradleScript.Proofs.Script.Literal

/-!
# The literals of a build script

Some texts of a blueprint are put between quotation marks when its script is built: plugins, the
package of an application, dimensions, the modules and the libraries that it depends on. They are
put there as they are. So the literal that is read behind an opening mark ends at the closing mark
of the same statement if the text can stand between the marks, and only then.

## Main definitions

* `Literal`: a text between quotation marks in the value of a statement
* `Blueprint.quotedTexts`: the texts that are put between marks
* `Blueprint.literals`: the literals of the script, with what stands around them

## Main results

* `Literal.isClosed_iff`: a literal is closed if its text can stand between the marks
* `Blueprint.isClosed_iff_of_mem_literals`: which literals of a script are closed
-/

namespace GradleScript

/-- A text between quotation marks in the value of a statement. -/
structure Literal where
  /-- The key of the statement. -/
  key : String
  /-- What stands in front of the opening mark in the value. -/
  before : String
  mark : Char
  /-- What stands between the opening mark and the text. -/
  lead : String
  text : String
  /-- What stands behind the closing mark in the value. -/
  after : String
  deriving DecidableEq, Repr

namespace Literal

variable (l : Literal)

/-- What stands between the marks. -/
def content : String := l.lead ++ l.text

/-- The statement that the literal is in. -/
def statement : Statement :=
  .keyValue l.key (l.before ++ l.mark.toString ++ l.content ++ l.mark.toString ++ l.after)

/-- Whatever follows the statement, the literal that is read behind the opening mark is what the
statement has between its two marks. -/
def IsClosed : Prop :=
  ∀ rest, readLiteral l.mark (l.content.toList ++ l.mark :: (l.after.toList ++ rest)) =
    some (l.content.toList, l.after.toList ++ rest)

theorem isClosed_iff (hm : l.mark ≠ '\\') : l.IsClosed ↔ Enclosable l.mark l.content.toList :=
  ⟨fun h => (readLiteral_append_iff hm _ _).1 (h []),
    fun h _ => (readLiteral_append_iff hm _ _).2 h⟩

end Literal

namespace Blueprint

/-- The literal of a plugin. -/
def pluginLiteral (plugin : String) : Literal := ⟨"apply plugin:", "", '\'', "", plugin, ""⟩

/-- The literal of the identifier of an application. -/
def applicationLiterals (b : Blueprint) : List Literal :=
  if b.isApplication then [⟨"applicationId", "", '"', "", b.package, ""⟩] else []

/-- The literals in a list of dimensions, of which these are still to come. -/
def dimensionLiterals (before : String) : List String → List Literal
  | [] => []
  | [d] => [⟨"flavorDimensions", before, '"', "", d, ""⟩]
  | d :: e :: rest =>
    ⟨"flavorDimensions", before, '"', "", d,
        ", " ++ ", ".intercalate ((e :: rest).map doubleQuoted)⟩ ::
      dimensionLiterals (before ++ doubleQuoted d ++ ", ") (e :: rest)

/-- The literal of the dimension of a flavor, if it has one. -/
def flavorLiterals (f : Flavor) : List Literal :=
  f.dimension.toList.map fun d => ⟨"dimension", "", '"', "", d, ""⟩

/-- The literal of a dependency on a module. -/
def moduleLiteral (d : ModuleDependency) : Literal :=
  ⟨d.method, "project(", '\'', ":", d.module, ")"⟩

/-- The literal of a dependency on a library. -/
def libraryLiteral (l : LibraryDependency) : Literal := ⟨l.method, "", '"', "", l.coordinate, ""⟩

/-- The literals of the script that have a text of the blueprint in them. -/
def literals (b : Blueprint) : List Literal :=
  b.plugins.toList.map pluginLiteral ++ b.applicationLiterals ++
    dimensionLiterals "" b.flavorDimensions.toList ++ b.flavors.flatMap flavorLiterals ++
    b.dependencies.map moduleLiteral ++ b.libraries.map libraryLiteral

/-- The texts of the blueprint that are put between quotation marks, each with its mark. -/
def quotedTexts (b : Blueprint) : List (Char × String) :=
  b.plugins.toList.map ('\'', ·) ++ (if b.isApplication then [('"', b.package)] else []) ++
    b.flavorDimensions.toList.map ('"', ·) ++ (b.flavors.filterMap (·.dimension)).map ('"', ·) ++
    b.dependencies.map (fun d => ('\'', d.module)) ++ b.libraries.map fun l => ('"', l.coordinate)

/-! ## Their texts -/

theorem map_text_dimensionLiterals (before : String) (names : List String) :
    (dimensionLiterals before names).map (fun l => (l.mark, l.text)) = names.map ('"', ·) := by
  induction names generalizing before with
  | nil => rfl
  | cons d rest ih =>
    cases rest with
    | nil => rfl
    | cons e rest =>
      rw [dimensionLiterals, List.map_cons, ih]
      rfl

/-- The literals have the texts that are put between marks, and no others. -/
theorem map_text_literals (b : Blueprint) :
    b.literals.map (fun l => (l.mark, l.text)) = b.quotedTexts := by
  have flavors : (b.flavors.flatMap flavorLiterals).map (fun l => (l.mark, l.text)) =
      (b.flavors.filterMap (·.dimension)).map ('"', ·) := by
    induction b.flavors with
    | nil => rfl
    | cons f rest ih => cases h : f.dimension <;> simp [flavorLiterals, h, ih]
  have application : b.applicationLiterals.map (fun l => (l.mark, l.text)) =
      if b.isApplication then [('"', b.package)] else [] := by
    unfold applicationLiterals
    split <;> rfl
  simp only [literals, quotedTexts, List.map_append, flavors, application,
    map_text_dimensionLiterals, List.map_map]
  rfl

/-! ## Their statements -/

/-- Each literal in a list of dimensions is in the statement of the whole list. -/
theorem statement_of_mem_dimensionLiterals {l : Literal} (before : String) (names : List String)
    (h : l ∈ dimensionLiterals before names) :
    l.statement =
      .keyValue "flavorDimensions" (before ++ ", ".intercalate (names.map doubleQuoted)) := by
  induction names generalizing before with
  | nil => simp [dimensionLiterals] at h
  | cons d rest ih =>
    cases rest with
    | nil =>
      rw [dimensionLiterals, List.mem_singleton] at h
      subst h
      simp [Literal.statement, Literal.content, doubleQuoted, String.append_assoc]
    | cons e rest =>
      have list : ", ".intercalate ((d :: e :: rest).map doubleQuoted) =
          doubleQuoted d ++ ", " ++ ", ".intercalate ((e :: rest).map doubleQuoted) := by
        rw [List.map_cons, String.intercalate_cons_of_ne_nil (by simp)]
      rw [list]
      rcases List.mem_cons.1 h with rfl | h
      · rw [Literal.statement, Statement.keyValue.injEq]
        refine ⟨rfl, String.ext ?_⟩
        simp [Literal.content, doubleQuoted, -String.toList_intercalate]
      · rw [ih _ h]
        simp only [String.append_assoc]

theorem statement_pluginLiteral (p : String) : (pluginLiteral p).statement = applyPlugin p := by
  simp [pluginLiteral, Literal.statement, Literal.content, applyPlugin, singleQuoted]

theorem statement_moduleLiteral (d : ModuleDependency) :
    (moduleLiteral d).statement = moduleLine d := by
  rw [Literal.statement, moduleLine, Statement.keyValue.injEq]
  exact ⟨rfl, String.ext (by simp [moduleLiteral, Literal.content])⟩

theorem statement_libraryLiteral (l : LibraryDependency) :
    (libraryLiteral l).statement = libraryLine l := by
  simp [libraryLiteral, Literal.statement, Literal.content, libraryLine, doubleQuoted]

/-! ## The script that they are in -/

theorem ne_nil_of_mem_dimensionLiterals {l : Literal} {before : String} {names : List String}
    (h : l ∈ dimensionLiterals before names) : names ≠ [] := by
  rintro rfl
  simp [dimensionLiterals] at h

theorem statement_mem_applicationId {b : Blueprint} {l : Literal}
    (h : l ∈ b.applicationLiterals) : l.statement ∈ b.applicationId := by
  unfold applicationLiterals at h
  unfold applicationId
  split at h
  · next app =>
    rw [List.mem_singleton] at h
    subst h
    simp [app, Literal.statement, Literal.content, doubleQuoted]
  · simp at h

theorem statement_mem_dimensionsLine {b : Blueprint} {l : Literal}
    (h : l ∈ dimensionLiterals "" b.flavorDimensions.toList) : l.statement ∈ b.dimensionsLine := by
  have some : b.flavorDimensions.isEmpty = false := by
    simpa [NameSet.isEmpty] using ne_nil_of_mem_dimensionLiterals h
  rw [statement_of_mem_dimensionLiterals _ _ h, String.empty_append, dimensionsLine, some]
  exact .head _

theorem statement_flavorLiteral {f : Flavor} {l : Literal} (h : l ∈ flavorLiterals f) :
    ∃ d ∈ f.dimension, l.statement = .keyValue "dimension" (doubleQuoted d) := by
  simp only [flavorLiterals, List.mem_map, Option.mem_toList] at h
  obtain ⟨d, hd, rfl⟩ := h
  exact ⟨d, hd, by simp [Literal.statement, Literal.content, doubleQuoted]⟩

/-- Each literal is in a statement of the script. -/
theorem exists_scope_of_mem_literals {b : Blueprint} {l : Literal} (h : l ∈ b.literals) :
    ∃ scope ∈ b.script.scopes, l.statement ∈ scope := by
  have top := b.script.statements_mem_scopes
  have android : b.androidStatements ∈ b.script.scopes :=
    Script.children_mem_scopes (n := "android") top (by simp [script])
  have dependencies : b.dependencyStatements ∈ b.script.scopes :=
    Script.children_mem_scopes (n := "dependencies") top (by simp [script])
  have inSection (s : Statement) (present : b.hasFlavorSection = true) (hs : s ∈ b.dimensionsLine ++
      [.block "productFlavors" (b.flavors.map flavorBlock)]) : s ∈ b.androidStatements := by
    rw [androidStatements, flavorSection, if_pos present]
    exact List.mem_append_right _ hs
  simp only [literals, List.mem_append, List.mem_map, List.mem_flatMap] at h
  rcases h with ((((⟨p, hp, rfl⟩ | h) | h) | ⟨f, hf, h⟩) | ⟨d, hd, rfl⟩) | ⟨l, hl, rfl⟩
  · refine ⟨_, top, ?_⟩
    rw [statement_pluginLiteral, script]
    exact List.mem_append_left _ (List.mem_append_left _ (List.mem_map_of_mem hp))
  · have config := Script.children_mem_scopes (n := "defaultConfig") android
      (List.mem_append_left _ (List.mem_append_left _ (List.mem_append_left _ (.tail _ (.head _)))))
    exact ⟨_, config, List.mem_append_left _ (statement_mem_applicationId h)⟩
  · refine ⟨_, android, inSection _ ?_ (List.mem_append_left _ (statement_mem_dimensionsLine h))⟩
    simp [hasFlavorSection, NameSet.isEmpty, ne_nil_of_mem_dimensionLiterals h]
  · have present : b.hasFlavorSection = true := by
      simp [hasFlavorSection, List.ne_nil_of_mem hf]
    have flavors := Script.children_mem_scopes android
      (inSection _ present (List.mem_append_right _ (.head _)))
    have block := Script.children_mem_scopes flavors (List.mem_map_of_mem hf)
    obtain ⟨d, hd, e⟩ := statement_flavorLiteral h
    exact ⟨_, block, by rw [e]; exact List.mem_map_of_mem (Option.mem_toList.2 hd)⟩
  · refine ⟨_, dependencies, ?_⟩
    rw [statement_moduleLiteral, dependencyStatements]
    exact .tail _ (List.mem_append_left _ (List.mem_map_of_mem hd))
  · refine ⟨_, dependencies, ?_⟩
    rw [statement_libraryLiteral, dependencyStatements]
    exact .tail _ (List.mem_append_right _ (List.mem_map_of_mem hl))

/-! ## The literals that are closed -/

theorem form_of_mem_dimensionLiterals {l : Literal} {before : String} {names : List String}
    (h : l ∈ dimensionLiterals before names) : l.mark = '"' ∧ l.lead = "" := by
  induction names generalizing before with
  | nil => simp [dimensionLiterals] at h
  | cons d rest ih =>
    cases rest with
    | nil =>
      rw [dimensionLiterals, List.mem_singleton] at h
      subst h
      exact ⟨rfl, rfl⟩
    | cons e rest =>
      rcases List.mem_cons.1 h with rfl | h
      · exact ⟨rfl, rfl⟩
      · exact ih h

/-- There are two kinds of quotation marks, and nothing but a colon stands between an opening mark
and the text. -/
theorem form_of_mem_literals {b : Blueprint} {l : Literal} (h : l ∈ b.literals) :
    (l.mark = '"' ∨ l.mark = '\'') ∧ (l.lead = "" ∨ l.lead = ":") := by
  simp only [literals, List.mem_append, List.mem_map, List.mem_flatMap] at h
  rcases h with ((((⟨p, -, rfl⟩ | h) | h) | ⟨f, -, h⟩) | ⟨d, -, rfl⟩) | ⟨l, -, rfl⟩
  · exact ⟨.inr rfl, .inl rfl⟩
  · unfold applicationLiterals at h
    split at h
    · rw [List.mem_singleton] at h
      subst h
      exact ⟨.inl rfl, .inl rfl⟩
    · simp at h
  · obtain ⟨mark, lead⟩ := form_of_mem_dimensionLiterals h
    exact ⟨.inl mark, .inl lead⟩
  · simp only [flavorLiterals, List.mem_map] at h
    obtain ⟨d, -, rfl⟩ := h
    exact ⟨.inl rfl, .inl rfl⟩
  · exact ⟨.inr rfl, .inr rfl⟩
  · exact ⟨.inl rfl, .inl rfl⟩

/-- What stands in front of the text between the marks does not decide whether the literal is
closed. -/
theorem isClosed_iff_enclosable_text {b : Blueprint} {l : Literal} (h : l ∈ b.literals) :
    l.IsClosed ↔ Enclosable l.mark l.text.toList := by
  obtain ⟨mark, lead⟩ := form_of_mem_literals h
  have backslash : l.mark ≠ '\\' := by rcases mark with e | e <;> rw [e] <;> decide
  have colon : ':' ≠ l.mark := by rcases mark with e | e <;> rw [e] <;> decide
  rw [l.isClosed_iff backslash, Literal.content, String.toList_append]
  rcases lead with e | e
  · rw [e]
    rfl
  · rw [e, show ":".toList = [':'] from rfl, List.singleton_append,
      Enclosable.cons_iff (by decide)]
    exact ⟨fun h => h.2.2, fun h => ⟨colon, by decide, h⟩⟩

/-- **The literals of a script have the quoted texts of its blueprint as they are**, each between
two marks in a statement of the script. A literal is closed if and only if its text has no line
break, escapes each mark of the kind that it stands between, and does not escape the closing
one. -/
theorem isClosed_iff_of_mem_literals (b : Blueprint) :
    b.literals.map (fun l => (l.mark, l.text)) = b.quotedTexts ∧
      ∀ l ∈ b.literals, (∃ scope ∈ b.script.scopes, l.statement ∈ scope) ∧
        (l.IsClosed ↔ Enclosable l.mark l.text.toList) :=
  ⟨b.map_text_literals, fun _ h => ⟨exists_scope_of_mem_literals h, isClosed_iff_enclosable_text h⟩⟩

/-- A text with a quotation mark in the name of a plugin. -/
def markedSource : Source where
  name := "module.toml"
  text := "plugins = [\"a'b\"]\nmodule = [\"p\", \"m\"]\nsdk = [3, 1, 2]\n"

/-- What the text stands for. -/
def marked : Blueprint := { new "p" "m" 3 1 2 with plugins := .ofList ["a'b"] }

/-- The text is loaded, but the literal of its plugin ends at the mark in the name. -/
theorem not_isClosed_marked : load markedSource = .ok marked ∧
    pluginLiteral "a'b" ∈ marked.literals ∧ ¬ (pluginLiteral "a'b").IsClosed := by
  refine ⟨by decide +kernel, by decide +kernel, fun closed => ?_⟩
  have enclosable := ((pluginLiteral "a'b").isClosed_iff (by decide)).1 closed
  exact absurd (enclosable.marks ['a'] ['b'] (by decide)) (by decide)

end Blueprint

end GradleScript
