import GradleScript.Blueprint.Edit
import GradleScript.FileTree
import GradleScript.Main
import GradleScript.Proofs.Script.Pieces
import GradleScript.Proofs.Script.Reading
import GradleScript.Proofs.Script.Literal
import GradleScript.Proofs.Blueprint.Recovery
import GradleScript.Proofs.Blueprint.Content
import GradleScript.Proofs.Schema.Record
import GradleScript.Proofs.Blueprint.WellFormed
import GradleScript.Proofs.Blueprint.Literals
import GradleScript.Proofs.Lint.Defects
import GradleScript.Proofs.Load.Conformance
import GradleScript.Proofs.Schema.Written
import GradleScript.Proofs.Load.Loadable
import GradleScript.Proofs.Load.KeySpan
import GradleScript.Proofs.Cli.Gate
import GradleScript.Proofs.FileTree.Growth
import GradleScript.Proofs.Generate.OnDisk
import GradleScript.Proofs.Generate.Refusal
import GradleScript.Proofs.Cli.Reported
import GradleScript.Proofs.Load.Arrangement
import GradleScript.Proofs.Script.Balance
import GradleScript.Proofs.Blueprint.Edits
import GradleScript.Proofs.Blueprint.Equality
import GradleScript.Proofs.FileTree.Making
import GradleScript.Proofs.Generate.OneFile
import GradleScript.Proofs.FileTree.Overwriting
import GradleScript.Proofs.Blueprint.Insertions
import GradleScript.Proofs.Generate.Again
import GradleScript.Proofs.Lint.Scan
import GradleScript.Proofs.Script.FlatText
import GradleScript.Proofs.Lint.DeclarationOrder
import GradleScript.Proofs.Load.Sections
import GradleScript.Proofs.Lint.Edits
import GradleScript.Proofs.Load.Assignment
import GradleScript.Proofs.Blueprint.Bodies
import GradleScript.Proofs.Blueprint.Blocks
import GradleScript.Proofs.Cli.Targets
