import GradleScript.Blueprint.Document
import GradleScript.Disk
import GradleScript.Text.Blank
import GradleScript.Toml.Document

/-!
# Loading blueprints

A blueprint is loaded from the text of a document in three stages: the text is read as TOML, the
document has to fit the schema, and the blueprint has to be valid. An error belongs to exactly one
stage and says where it was found, as far as that is known.

## Main definitions

* `keySpan?`: the place of the first line that assigns to a key
* `LoadError`: the ways in which loading fails
* `Blueprint.load`: the blueprint of a text
-/

namespace GradleScript

open Toml

/-- A text with the name that errors call it by. -/
structure Source where
  name : String
  text : String
  deriving DecidableEq, Repr

/-- A rule that a blueprint breaks. -/
inductive Violation where
  /-- The package is empty, or white space only. -/
  | blankPackage
  /-- The lowest level is above the target level. -/
  | minAboveTarget (min target : ApiLevel)
  /-- A rule of a caller's own, with what is said about it. -/
  | custom (message : String)
  deriving DecidableEq, Repr

/-- What is said about a broken rule. -/
def Violation.message : Violation → String
  | .blankPackage => "module package must not be empty"
  | .minAboveTarget min target =>
    "min sdk " ++ toString min.toNat ++ " is greater than target sdk " ++ toString target.toNat
  | .custom message => message

/-- A way in which loading fails. -/
inductive LoadError where
  /-- The file cannot be read. -/
  | unreadable (path : String) (failure : FileFailure)
  /-- The text is no document. -/
  | malformed (source : Source) (error : SyntaxError)
  /-- The document does not fit the schema. -/
  | unfit (source : Source) (mismatch : Mismatch)
  /-- The blueprint breaks a rule; the place is known if the key is found in the text. -/
  | invalid (source : Source) (violation : Violation) (span : Option Span)
  deriving DecidableEq, Repr

namespace LoadError

/-- What is said about an error. -/
def message : LoadError → String
  | .unreadable path _ => "failed to read '" ++ path ++ "'"
  | .malformed .. => "failed to parse blueprint"
  | .unfit .. => "failed to parse blueprint"
  | .invalid _ violation _ => violation.message

/-- The name of the stage that an error belongs to. -/
def code : LoadError → String
  | .unreadable .. => "modgen::io"
  | .malformed .. => "modgen::parse_error"
  | .unfit .. => "modgen::parse_error"
  | .invalid .. => "modgen::validation_error"

/-- What to do about an error. -/
def help : LoadError → Option String
  | .unreadable .. => some "pass the path to a module blueprint, e.g. 'app/module.toml'"
  | _ => none

/-- What is written at the place of an error in the text, if it has one; there is no text of a
file that was not read. -/
def labels : LoadError → Option (List String)
  | .unreadable .. => none
  | .malformed _ .unexpected => some ["parse error here"]
  | .malformed _ .keyTooLong => some []
  | .unfit .. => some ["parse error here"]
  | .invalid _ violation (some _) => some [violation.message]
  | .invalid _ _ none => some []

end LoadError

/-- The error of a text that breaks a rule of a caller's own. -/
def Source.violation (source : Source) (message : String) (span : Option Span) : LoadError :=
  .invalid source (.custom message) span

/-- The number of bytes of a text. -/
def byteLength (cs : List Char) : Nat :=
  cs.foldr (fun c n => c.utf8Size + n) 0

@[simp] theorem byteLength_nil : byteLength [] = 0 := rfl

@[simp] theorem byteLength_cons (c : Char) (cs : List Char) :
    byteLength (c :: cs) = c.utf8Size + byteLength cs := rfl

@[simp] theorem byteLength_append (cs ds : List Char) :
    byteLength (cs ++ ds) = byteLength cs + byteLength ds := by
  induction cs with
  | nil => simp
  | cons c cs ih => simp [ih, Nat.add_assoc]

/-- The lines of a text with their newlines. -/
def linesWithEnds : List Char → List (List Char)
  | [] => []
  | c :: rest =>
    if c = '\n' then [c] :: linesWithEnds rest
    else
      match linesWithEnds rest with
      | [] => [[c]]
      | line :: others => (c :: line) :: others

/-- Whether a line assigns to a key: after white space it has the key, and after more white space
an equals sign. -/
def assigns (key line : List Char) : Bool :=
  match key.isPrefixOf? (Text.dropBlanks line) with
  | some rest => (Text.dropBlanks rest).head? == some '='
  | none => false

/-- The place of the key in the first of some lines that assigns to it; the lines start at byte
`offset`. -/
def keySpanFrom? (key : List Char) (offset : Nat) : List (List Char) → Option Span
  | [] => none
  | line :: rest =>
    if assigns key line then
      some ⟨offset + byteLength (line.takeWhile Text.isBlank), byteLength key⟩
    else keySpanFrom? key (offset + byteLength line) rest

/-- The place of the key in the first line of a text that assigns to it. -/
def keySpan? (text key : String) : Option Span :=
  keySpanFrom? key.toList 0 (linesWithEnds text.toList)

namespace Blueprint

/-- The first rule that a blueprint breaks, with the key that it is about. -/
def violation? (b : Blueprint) : Option (Violation × String) :=
  if Text.isAllBlank b.package then some (.blankPackage, "package")
  else if b.minSdk > b.targetSdk then some (.minAboveTarget b.minSdk b.targetSdk, "min")
  else none

/-- The blueprint of a document, whatever rules it breaks. -/
def decode (document : Value) : Except Mismatch Blueprint :=
  (documentSchema.decode document).map ofDocument

/-- The blueprint of a text. -/
def load (source : Source) : Except LoadError Blueprint :=
  match Document.parse source.text with
  | .error e => .error (.malformed source e)
  | .ok document =>
    match decode document with
    | .error mismatch => .error (.unfit source mismatch)
    | .ok b =>
      match b.violation? with
      | some (violation, key) => .error (.invalid source violation (keySpan? source.text key))
      | none => .ok b

end Blueprint

end GradleScript
