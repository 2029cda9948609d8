/-!
# Disks

A disk is what files are read from and written to: three operations, each of which may fail.

## Main definitions

* `FileFailure`: the ways in which an operation fails
* `Disk`: the operations
-/

namespace GradleScript

/-- Why a file cannot be read or written, or a directory not be made. -/
inductive FileFailure where
  | notFound
  | alreadyExists
  | notADirectory
  | isADirectory
  /-- The path has a character that no path may have. -/
  | invalidInput
  /-- A name, or the whole path, is too long. -/
  | invalidFilename
  /-- What is in the file is no text. -/
  | invalidData
  deriving DecidableEq, Repr

/-- The word for a failure. -/
def FileFailure.label : FileFailure → String
  | .notFound => "NotFound"
  | .alreadyExists => "AlreadyExists"
  | .notADirectory => "NotADirectory"
  | .isADirectory => "IsADirectory"
  | .invalidInput => "InvalidInput"
  | .invalidFilename => "InvalidFilename"
  | .invalidData => "InvalidData"

/-- What the operating system says about a failure. -/
def FileFailure.systemMessage : FileFailure → String
  | .notFound => "No such file or directory (os error 2)"
  | .alreadyExists => "File exists (os error 17)"
  | .notADirectory => "Not a directory (os error 20)"
  | .isADirectory => "Is a directory (os error 21)"
  | .invalidInput => "file name contained an unexpected NUL byte"
  | .invalidFilename => "File name too long (os error 36)"
  | .invalidData => "stream did not contain valid UTF-8"

/-- The operations on files, carried out in a monad `m`. -/
structure Disk (m : Type → Type) where
  /-- The text of a file. -/
  read : (path : String) → m (Except FileFailure String)
  /-- Makes a directory and those above it, as far as they are missing. -/
  makeDirs : (path : String) → m (Except FileFailure Unit)
  /-- Writes a text to a file, in place of what is there; the directory must be there. -/
  write : (path text : String) → m (Except FileFailure Unit)

end GradleScript
