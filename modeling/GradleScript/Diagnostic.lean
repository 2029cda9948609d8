/-!
# Diagnostics

A diagnostic is one remark about a blueprint: how serious it is, which lint makes it, what it says
and which key it is about.

## Main definitions

* `Diagnostic.text`: a diagnostic on one line
-/

namespace GradleScript

/-- How serious a remark is. Only errors keep scripts from being generated. -/
inductive Severity where
  | error
  | warning
  deriving DecidableEq, Repr

namespace Severity

/-- The word for a severity. -/
def label : Severity → String
  | .error => "error"
  | .warning => "warning"

/-- Whether a remark of this severity is an error. -/
def isError (s : Severity) : Bool := s == .error

end Severity

/-- One remark about a blueprint. -/
structure Diagnostic where
  severity : Severity
  lint : String
  message : String
  /-- The key that the remark is about, with dots between its parts. -/
  location : Option String := none
  deriving DecidableEq, Repr

namespace Diagnostic

/-- Whether a diagnostic is an error. -/
def isError (d : Diagnostic) : Bool := d.severity.isError

/-- The same remark about another place. -/
def locatedAt (d : Diagnostic) (location : String) : Diagnostic :=
  { d with location := some location }

/-- A diagnostic on one line: severity, lint, message, and the location if it has one. -/
def text (d : Diagnostic) : String :=
  d.severity.label ++ "[" ++ d.lint ++ "]: " ++ d.message ++
    match d.location with
    | some location => " (at " ++ location ++ ")"
    | none => ""

end Diagnostic

end GradleScript
