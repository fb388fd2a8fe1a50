import StoredFunctions.Archive.Reader
import StoredFunctions.Main
import StoredFunctions.Proofs.Statement.Concatenation
import StoredFunctions.Proofs.Statement.Decomposition
import StoredFunctions.Proofs.Filler.Capture
import StoredFunctions.Proofs.Statement.BodyEnd
import StoredFunctions.Proofs.Statement.Seam
import StoredFunctions.Proofs.Statement.Single
import StoredFunctions.Proofs.Punctuation.Passing
import StoredFunctions.Proofs.Names.Canonical
import StoredFunctions.Proofs.Kind.Canonical
import StoredFunctions.Proofs.Kind.Oversized
import StoredFunctions.Proofs.Statement.Faults
import StoredFunctions.Proofs.Bindings.Outline
import StoredFunctions.Proofs.Bindings.Scope
import StoredFunctions.Proofs.Json.String
import StoredFunctions.Proofs.Json.Layout
import StoredFunctions.Proofs.Archive.Node
import StoredFunctions.Proofs.Archive.Alteration
import StoredFunctions.Proofs.Archive.Reading
import StoredFunctions.Proofs.Archive.Shape
import StoredFunctions.Proofs.Archive.Address
import StoredFunctions.Proofs.Bindings.Acceptance
import StoredFunctions.Proofs.Pool.Progress
import StoredFunctions.Proofs.Pool.Schedule
import StoredFunctions.Proofs.Pool.Settings
import StoredFunctions.Proofs.Pool.Defaults
import StoredFunctions.Proofs.Statement.Loading
import StoredFunctions.Proofs.Reading.Location
import StoredFunctions.Proofs.Reading.Line
import StoredFunctions.Proofs.Reading.Alternatives
import StoredFunctions.Proofs.Statement.Location
import StoredFunctions.Proofs.Statement.Relocation
import StoredFunctions.Proofs.Statement.Progress
import StoredFunctions.Proofs.Kind.Construction
import StoredFunctions.Proofs.Statement.Invariant
import StoredFunctions.Proofs.Files.Tree
import StoredFunctions.Proofs.Command.Run
import StoredFunctions.Proofs.Command.Lines
import StoredFunctions.Proofs.Files.PathTemplate
import StoredFunctions.Proofs.Bindings.Walk
import StoredFunctions.Proofs.Files.Discovery
import StoredFunctions.Proofs.Bindings.Wrapper
