import GradleScript.Disk
import GradleScript.FileEntry
import GradleScript.Path

/-!
# File trees

A file tree holds files and directories below a root. One directory is the current one, from which
relative paths start. There are no links, so that every path denotes at most one location.

## Main definitions

* `FileTree.find?`: what is at a location
* `FileTree.walk`: the location that a path leads to
* `FileTree.read`, `FileTree.makeDirs`, `FileTree.write`: the operations on files
* `FileTree.disk`: a disk whose state is a file tree
* `FileTree.listing`: what is below the current directory
-/

namespace GradleScript

/-- Files and directories, with a current directory. -/
structure FileTree where
  /-- What is in the root. -/
  root : List (String × FileEntry)
  /-- Where relative paths start. -/
  current : Location

/-- One step of a way through a file tree. -/
inductive PathStep where
  | stay
  | up
  | enter (name : String)
  deriving DecidableEq, Repr

/-- The step that a piece of a path asks for, if it asks for any. -/
def PathStep.ofPiece? (piece : String) : Option PathStep :=
  if piece = "" then none
  else if piece = "." then some .stay
  else if piece = ".." then some .up
  else some (.enter piece)

/-- The steps of a path, after the root or the current directory. -/
def Path.steps (path : String) : List PathStep :=
  (Path.pieces path).filterMap PathStep.ofPiece?

/-- The number of bytes that a name may have. -/
def maxNameLength : Nat := 255

/-- The number of bytes that a path may have. -/
def maxPathLength : Nat := 4095

/-- Why no operation takes a path, if it is not well formed. -/
def Path.failure? (path : String) : Option FileFailure :=
  if path.toList.contains '\x00' then some .invalidInput
  else if path.utf8ByteSize > maxPathLength then some .invalidFilename
  else if path = "" then some .notFound
  else none

namespace FileTree

/-- What is at a location. The root is always a directory. -/
def find? (t : FileTree) (l : Location) : Option FileEntry :=
  (FileEntry.directory t.root).find? l

/-- The tree with an entry at a location, in place of what is there. -/
def set (t : FileTree) (l : Location) (e : FileEntry) : FileTree :=
  match FileEntry.put e l (.directory t.root) with
  | .directory root => { t with root }
  | .file _ => t

@[simp] theorem find?_root (t : FileTree) : t.find? [] = some (.directory t.root) := by
  simp [find?]

/-- Where a path starts. -/
def start (t : FileTree) (path : String) : Location :=
  if Path.isAbsolute path then [] else t.current

/-- Takes one step from a location, which must be a directory. What is entered need not exist. -/
def step (t : FileTree) (l : Location) (s : PathStep) : Except FileFailure Location :=
  match t.find? l with
  | none => .error .notFound
  | some (.file _) => .error .notADirectory
  | some (.directory _) =>
    match s with
    | .stay => .ok l
    | .up => .ok l.dropLast
    | .enter name =>
      if name.utf8ByteSize > maxNameLength then .error .invalidFilename else .ok (l ++ [name])

/-- The location that steps lead to; all but the last step must lead to directories. -/
def walkFrom (t : FileTree) (l : Location) : List PathStep → Except FileFailure Location
  | [] => .ok l
  | s :: rest =>
    match t.step l s with
    | .ok l => t.walkFrom l rest
    | .error e => .error e

/-- The location that a path leads to. -/
def walk (t : FileTree) (path : String) : Except FileFailure Location :=
  match Path.failure? path with
  | some e => .error e
  | none => t.walkFrom (t.start path) (Path.steps path)

/-- The directory that a path leads to before its last step, and the last step. -/
def walkToLast (t : FileTree) (path : String) :
    Except FileFailure (Location × Option PathStep) :=
  match Path.failure? path with
  | some e => .error e
  | none =>
    match t.walkFrom (t.start path) (Path.steps path).dropLast with
    | .error e => .error e
    | .ok l =>
      match t.find? l with
      | none => .error .notFound
      | some (.file _) => .error .notADirectory
      | some (.directory _) => .ok (l, (Path.steps path).getLast?)

/-- Whether a path ends with a separator. -/
def endsWithSlash (path : String) : Bool :=
  path.toList.getLast? == some '/'

/-- The text of the file that a path leads to. A path to a file does not end with a separator. -/
def read (t : FileTree) (path : String) : Except FileFailure String :=
  match t.walk path with
  | .error e => .error e
  | .ok l =>
    match t.find? l with
    | none => .error .notFound
    | some (.directory _) => .error .isADirectory
    | some (.file content) =>
      if endsWithSlash path then .error .notADirectory
      else
        match String.fromUTF8? content with
        | some text => .ok text
        | none => .error .invalidData

/-- Makes the directory that one step from a location leads to, unless it is there, and gives its
location. -/
def makeDir (t : FileTree) (l : Location) (s : PathStep) :
    Except FileFailure Location × FileTree :=
  match t.step l s with
  | .error e => (.error e, t)
  | .ok target =>
    match t.find? target with
    | none => (.ok target, t.set target (.directory []))
    | some (.directory _) => (.ok target, t)
    | some (.file _) => (.error .alreadyExists, t)

/-- Makes the directory that some steps from a location lead to, the last step being given first,
and gives its location. It is tried in its place first; if that place is missing, it is made after
the directory in front of it. What was made stays when a later step fails. -/
def makeChain (t : FileTree) (base : Location) :
    List PathStep → Except FileFailure Location × FileTree
  | [] => (.ok base, t)
  | s :: before =>
    let attempt :=
      match t.walkFrom base before.reverse with
      | .ok l => t.makeDir l s
      | .error e => (.error e, t)
    match attempt with
    | (.error .notFound, _) =>
      match t.makeChain base before with
      | (.ok l, t) => t.makeDir l s
      | failed => failed
    | done => done

/-- Makes a directory and those above it, as far as they are missing. Steps that stay where they
are make nothing. -/
def makeDirs (t : FileTree) (path : String) : Except FileFailure Unit × FileTree :=
  match (Path.steps path).filter (· ≠ .stay), Path.failure? path with
  | [], _ => (.ok (), t)
  | _, some e => (.error e, t)
  | moves, none =>
    let (made, t) := t.makeChain (t.start path) moves.reverse
    (made.map fun _ => (), t)

/-- Writes to the file that a path leads to, in place of what is there. -/
def writeBytes (t : FileTree) (path : String) (content : ByteArray) :
    Except FileFailure FileTree :=
  match t.walkToLast path with
  | .error e => .error e
  | .ok (l, some (.enter name)) =>
    if endsWithSlash path then .error .isADirectory
    else if name.utf8ByteSize > maxNameLength then .error .invalidFilename
    else
      match t.find? (l ++ [name]) with
      | some (.directory _) => .error .isADirectory
      | _ => .ok (t.set (l ++ [name]) (.file content))
  | .ok _ => .error .isADirectory

/-- Writes a text to the file that a path leads to, in place of what is there. -/
def write (t : FileTree) (path text : String) : Except FileFailure FileTree :=
  t.writeBytes path text.toUTF8

/-- A disk whose state is a file tree. -/
def disk : Disk (StateM FileTree) where
  read path := fun t => (t.read path, t)
  makeDirs path := fun t => t.makeDirs path
  write path text := fun t =>
    match t.write path text with
    | .ok t => (.ok (), t)
    | .error e => (.error e, t)

/-- What is below the current directory, as paths from there with the texts of the files, in the
order of the paths. -/
def listing (t : FileTree) : List (String × Option String) :=
  match t.find? t.current with
  | some (.directory entries) =>
    (FileEntry.listedAll "" entries).mergeSort fun p q => p.1 ≤ q.1
  | _ => []

end FileTree

end GradleScript
