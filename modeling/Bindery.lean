import Bindery.Command.Arguments
import Bindery.Command.FileSystem
import Bindery.Command.FileTree
import Bindery.Command.Invocation
import Bindery.Command.PathText
import Bindery.Command.Report
import Bindery.Command.Run
import Bindery.CratePath
import Bindery.CratePath.Gap
import Bindery.CrateSession
import Bindery.Decimal.Notation
import Bindery.Decimal.Shortest
import Bindery.Description.Items
import Bindery.Description.Reading
import Bindery.Description.Ty
import Bindery.Description.Writing
import Bindery.Files
import Bindery.Generate
import Bindery.GenerateError
import Bindery.Header.Declarator
import Bindery.Header.Documentation
import Bindery.Header.File
import Bindery.Header.Name
import Bindery.Header.Typedef
import Bindery.Journal
import Bindery.Json.Complaint
import Bindery.Json.Lexer
import Bindery.Json.Numeral
import Bindery.Json.Reader
import Bindery.Json.Skip
import Bindery.Json.Token
import Bindery.Json.Writer
import Bindery.KeyValue.Session
import Bindery.KeyValue.Store
import Bindery.Loader.Documentation
import Bindery.Loader.Expression
import Bindery.Loader.File
import Bindery.Loader.Support
import Bindery.Main
import Bindery.Manifest
import Bindery.ManifestCache
import Bindery.Named
import Bindery.Options
import Bindery.Ownership.Block
import Bindery.Ownership.Boundary
import Bindery.Ownership.Closure
import Bindery.Ownership.Erased
import Bindery.Ownership.Fault
import Bindery.Ownership.Owner
import Bindery.Ownership.Pointer
import Bindery.Ownership.Shelf
import Bindery.Ownership.View
import Bindery.Proofs.Description.RoundTrip
import Bindery.Proofs.Description.Walk
import Bindery.Proofs.Generate
import Bindery.Proofs.Header.Parts
import Bindery.Proofs.Header.Syntax
import Bindery.Proofs.Header.Typedefs
import Bindery.Proofs.Json.Lexing
import Bindery.Proofs.Json.Reading
import Bindery.Proofs.Named
import Bindery.Proofs.Ownership.Ledger
import Bindery.Proofs.Ownership.Placed
import Bindery.Proofs.Ownership.World
import Bindery.Proofs.Precede
import Bindery.Proofs.Validity.Arranged
import Bindery.Proofs.Validity.Faults
import Bindery.Proofs.Validity.Order
import Bindery.Symbols
import Bindery.Target
import Bindery.Text.Extending
import Bindery.Text.Identifier
import Bindery.Text.OrderMark
import Bindery.Text.Printable
import Bindery.Text.Quoted
import Bindery.Text.Ranges
import Bindery.Toml.Document
import Bindery.Toml.Scalar
import Bindery.Toml.Table
import Bindery.Toml.Text
import Bindery.Toml.Value
import Bindery.Validity.Check
import Bindery.Validity.LayoutOrder
import Bindery.Validity.Problem
import Bindery.Wrapper.Declaration
import Bindery.Wrapper.Projection
import Bindery.Wrapper.Token
import Bindery.Proofs.Wrapper.Readable
import Bindery.Proofs.Loader.Syntax
import Bindery.Proofs.Completeness
import Bindery.Proofs.Layout.Agreement
import Bindery.Proofs.Layout.Described
import Bindery.Proofs.Layout.Loading
import Bindery.Proofs.Ownership.Triples
import Bindery.Proofs.ManifestCache
import Bindery.Proofs.KeyValue.History
import Bindery.Proofs.Wrapper.Identifiers
import Bindery.Proofs.Outcome
import Bindery.Proofs.Header.Forwarding
import Bindery.Proofs.Header.Distinct
import Bindery.Proofs.Header.Identifiers
import Bindery.Proofs.Loader.Names
import Bindery.Proofs.Loader.Scoping
import Bindery.Proofs.Validity.Least
import Bindery.Proofs.Header.Collisions
import Bindery.Proofs.Header.Declarators
import Bindery.Proofs.Symbols
import Bindery.Proofs.Validity.Settled
import Bindery.Proofs.Loader.Literals
import Bindery.Proofs.Loader.Readability
import Bindery.Proofs.Command.Generation
import Bindery.Proofs.Header.Comments
import Bindery.Proofs.Manifest
import Bindery.Proofs.Wrapper.Conversions
import Bindery.Proofs.Header.NormalForm
