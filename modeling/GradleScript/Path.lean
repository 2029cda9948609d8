/-!
# Paths

A path is a text that is kept exactly as it was written. Separators are slashes; a path that
starts with one is absolute. Two paths name the same steps when they have the same components:
repeated and final separators and inner or final single dots do not count, a leading dot and
every double dot do.

## Main definitions

* `Path.join`: a path below another one
* `Path.components`, `Path.same`: the steps of a path, and paths with the same steps
* `Path.parent?`: the path one step up
-/

namespace GradleScript.Path

/-- Whether a path starts at the root. -/
def isAbsolute (path : String) : Bool :=
  path.toList.head? == some '/'

/-- The path `path` taken from the directory `base`. An absolute path stays as it is; otherwise a
separator is put in between, unless the base is empty or already ends with one. -/
def join (base path : String) : String :=
  if isAbsolute path then path
  else
    match base.toList.getLast? with
    | none => path
    | some c => if c = '/' then base ++ path else base ++ "/" ++ path

/-- The pieces of a path between its separators; there is always one more than separators. -/
def pieces (path : String) : List String :=
  (path.toList.splitOn '/').map String.ofList

/-- One step of a path. -/
inductive Component where
  /-- To the root. -/
  | root
  /-- To the directory itself; only a path that starts with a dot has this step, and first. -/
  | here
  /-- To the parent directory. -/
  | up
  /-- To the entry of a name. -/
  | name (text : String)
  deriving DecidableEq, Repr

/-- A piece that is no step: nothing, or a single dot. -/
def isIdle (piece : String) : Bool :=
  piece == "" || piece == "."

/-- The step that a piece stands for. -/
def Component.ofPiece (piece : String) : Component :=
  if piece = ".." then .up else .name piece

/-- The steps of a path. -/
def components (path : String) : List Component :=
  let steps := ((pieces path).filter fun p => !isIdle p).map Component.ofPiece
  if isAbsolute path then .root :: steps
  else if (pieces path).head? = some "." then .here :: steps
  else steps

/-- Whether two paths take the same steps. -/
def same (a b : String) : Bool :=
  components a == components b

/-- What a path starts with before its first step by name, the root or a leading dot, and the
rest of it. -/
def splitStart (path : String) : String × String :=
  match path.toList with
  | '/' :: rest => ("/", String.ofList rest)
  | ['.'] => (".", "")
  | '.' :: '/' :: rest => (".", String.ofList ('/' :: rest))
  | _ => ("", path)

/-- The pieces up to the last one that is a step. -/
def dropIdleEnd (ps : List String) : List String :=
  (ps.reverse.dropWhile isIdle).reverse

/-- The path one step up, written as the path itself is. The root and the empty path have none. -/
def parent? (path : String) : Option String :=
  let (start, body) := splitStart path
  match dropIdleEnd (pieces body) with
  | [] => if start = "." then some "" else none
  | steps => some (start ++ "/".intercalate (dropIdleEnd steps.dropLast))

theorem isAbsolute_join_of_isAbsolute {base path : String} (h : isAbsolute path = true) :
    join base path = path := by
  simp [join, h]

@[simp] theorem join_empty_left (path : String) : join "" path = path := by
  simp [join]

@[simp] theorem same_self (path : String) : same path path = true := by
  simp [same]

end GradleScript.Path
