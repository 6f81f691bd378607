import ApiScribe.Block
import ApiScribe.Command
import ApiScribe.CommandLine
import ApiScribe.Compilation
import ApiScribe.Discovery
import ApiScribe.Document.Blocks
import ApiScribe.Document.Encode
import ApiScribe.Files
import ApiScribe.Main
import ApiScribe.Proofs.Dict
import ApiScribe.Proofs.FirstWins
import ApiScribe.Proofs.Registry.History
import ApiScribe.Proofs.Registry.Publication
import ApiScribe.Proofs.Schema.Content
import ApiScribe.Proofs.Schema.Places
import ApiScribe.Resource.Graph
import ApiScribe.Schema.Decode
import ApiScribe.Schema.Encode
import ApiScribe.Text.Identifier
import ApiScribe.Value.Json
import ApiScribe.Workspace
import ApiScribe.Yaml.Read
import ApiScribe.Yaml.Write
import ApiScribe.Proofs.Schema.References
import ApiScribe.Proofs.Registry.Renaming
import ApiScribe.Proofs.Schema.Ordered
import ApiScribe.Proofs.Schema.Equality
import ApiScribe.Proofs.Resource.Graph
import ApiScribe.Proofs.Resource.Envelopes
import ApiScribe.Proofs.Registry.Order
import ApiScribe.Proofs.Resource.Order
import ApiScribe.Proofs.Resource.Includes
import ApiScribe.Proofs.Compilation.DeclarationOrder
import ApiScribe.Proofs.Compilation.StrictMode
import ApiScribe.Proofs.Document.Canonical
import ApiScribe.Proofs.Keyed
import ApiScribe.Proofs.Document.Merge
import ApiScribe.Proofs.Document.MergeAll
import ApiScribe.Proofs.Document.PathBlocks
import ApiScribe.Proofs.Document.InfoBlocks
import ApiScribe.Proofs.Tree.ReadBack
import ApiScribe.Proofs.Schema.ReadBack
import ApiScribe.Proofs.Document.ReadBack
import ApiScribe.Proofs.Compilation.Plain
import ApiScribe.Proofs.Compilation.Growth
import ApiScribe.Proofs.Compilation.Separate
import ApiScribe.Proofs.Compilation.Replay
import ApiScribe.Proofs.Resolve.Invariant
import ApiScribe.Proofs.Resolve.WellShaped
import ApiScribe.Proofs.Resolve.Accounting
import ApiScribe.Proofs.Document.Unnamed
import ApiScribe.Proofs.Resolve.Legible
import ApiScribe.Proofs.Compilation.Readable
import ApiScribe.Proofs.Resource.Analysis
import ApiScribe.Proofs.FieldSpec.Marks
import ApiScribe.Proofs.Resource.Members
import ApiScribe.Proofs.Resource.Relations
import ApiScribe.Proofs.Block
import ApiScribe.Proofs.Compilation.Truncation
import ApiScribe.Proofs.Tag.Quotations
import ApiScribe.Proofs.Tag.Rendering
import ApiScribe.Proofs.FieldSpec.Order
import ApiScribe.Proofs.Resolve.Failure
import ApiScribe.Proofs.Text.Pieces
import ApiScribe.Proofs.Text.Search
import ApiScribe.Proofs.ExternalTypes
import ApiScribe.Proofs.Block.Extents
import ApiScribe.Proofs.Settling
import ApiScribe.Proofs.Resource.Repetition
import ApiScribe.Proofs.Document.Imports
import ApiScribe.Proofs.Compilation.Examples
