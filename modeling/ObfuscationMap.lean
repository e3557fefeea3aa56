import ObfuscationMap.Text.Basic
import ObfuscationMap.Text.Blank
import ObfuscationMap.Text.Lines
import ObfuscationMap.Text.Alphanumeric
import ObfuscationMap.Text.Quoted
import ObfuscationMap.Name
import ObfuscationMap.MappingError
import ObfuscationMap.Primitive
import ObfuscationMap.Member.Field
import ObfuscationMap.Member.Method
import ObfuscationMap.OrderedMap.Basic
import ObfuscationMap.MappingTable.Edit
import ObfuscationMap.PackageMoves.Targets
import ObfuscationMap.TextFormat.Kind
import ObfuscationMap.Serial.Decode
import ObfuscationMap.Description
import ObfuscationMap.Workspace
import ObfuscationMap.Proofs.OrderedMap.Lookup
import ObfuscationMap.Proofs.Renaming.Composition
import ObfuscationMap.Proofs.MappingTable.Inverse
import ObfuscationMap.Proofs.Chain.ClosedForm
import ObfuscationMap.Proofs.Sample
import ObfuscationMap.Proofs.Chain.Lookup
import ObfuscationMap.Proofs.Chain.Writability
import ObfuscationMap.Proofs.Chain.TwoTables
import ObfuscationMap.Proofs.Chain.TwoMaps
import ObfuscationMap.Proofs.Chain.Refusal
import ObfuscationMap.Proofs.Chain.Strictness
import ObfuscationMap.Proofs.Chain.Sources
import ObfuscationMap.Proofs.Text.Words
import ObfuscationMap.Proofs.Text.Separators
import ObfuscationMap.Proofs.Name.Characters
import ObfuscationMap.Proofs.Name.Packages
import ObfuscationMap.Proofs.PackageMoves.Naming
import ObfuscationMap.Proofs.PackageMoves.Relocation
import ObfuscationMap.Proofs.PackageMoves.Undoing
import ObfuscationMap.Proofs.JavaType.Brackets
import ObfuscationMap.Proofs.JavaType.RoundTrip
import ObfuscationMap.Proofs.JavaType.NormalForm
import ObfuscationMap.Proofs.JavaType.Acceptance
import ObfuscationMap.Proofs.Member.RoundTrip
import ObfuscationMap.Proofs.MappingTable.Writable
import ObfuscationMap.Proofs.MappingTable.Following
import ObfuscationMap.Proofs.TextFormat.Gathering
import ObfuscationMap.Proofs.TextFormat.Reading
import ObfuscationMap.Proofs.TextFormat.SrgRoundTrip
import ObfuscationMap.Proofs.TextFormat.CsrgRoundTrip
import ObfuscationMap.Proofs.TextFormat.Derived
import ObfuscationMap.Proofs.Chain.Provenance
import ObfuscationMap.Proofs.Chain.Steps
import ObfuscationMap.Proofs.Chain.Alike
import ObfuscationMap.Proofs.Chain.Associativity
import ObfuscationMap.Proofs.Chain.Reordering
import ObfuscationMap.Proofs.OrderedMap.Inversion
import ObfuscationMap.Proofs.MappingTable.Duplicates
import ObfuscationMap.Proofs.Chain.Injectivity
import ObfuscationMap.Proofs.Chain.Reversal
import ObfuscationMap.Proofs.Chain.Additions
import ObfuscationMap.Proofs.Chain.Faults
import ObfuscationMap.Proofs.Chain.Transforms
import ObfuscationMap.Proofs.Chain.Consistency
import ObfuscationMap.Proofs.OrderedMap.Selection
import ObfuscationMap.Proofs.TextFormat.Records
import ObfuscationMap.Proofs.TextFormat.Building
import ObfuscationMap.Proofs.Text.Spacing
import ObfuscationMap.Proofs.TextFormat.Rearranging
import ObfuscationMap.Proofs.TextFormat.Processing
import ObfuscationMap.Proofs.Text.EncodedOrder
import ObfuscationMap.Proofs.Member.Spelling
import ObfuscationMap.Proofs.TextFormat.Canonical
import ObfuscationMap.Proofs.Text.Decoding
import ObfuscationMap.Proofs.TextFormat.Streams
import ObfuscationMap.Proofs.Member.NormalForm
import ObfuscationMap.Proofs.Member.Acceptance
import ObfuscationMap.Proofs.OrderedMap.LastOf
import ObfuscationMap.Proofs.TextFormat.NormalForm
import ObfuscationMap.Proofs.OrderedMap.History
import ObfuscationMap.Proofs.MappingTable.InPlace
import ObfuscationMap.Proofs.Workspace.Reachable
import ObfuscationMap.Proofs.Member.Storage
import ObfuscationMap.Proofs.PackageMoves.Destinations
import ObfuscationMap.Proofs.PackageMoves.Repeats
