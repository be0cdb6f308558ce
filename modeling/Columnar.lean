import Columnar.Array
import Columnar.Batch.Basic
import Columnar.Batch.Builder
import Columnar.Batch.Split
import Columnar.Builtin.Archetypes
import Columnar.Builtin.Colormap
import Columnar.Builtin.Components
import Columnar.Builtin.Datatypes
import Columnar.Codec.Decode
import Columnar.Codec.Encode
import Columnar.Codec.Layout
import Columnar.Column.Basic
import Columnar.Column.Type
import Columnar.Component.Archetype
import Columnar.Component.Descriptor
import Columnar.Component.Extension
import Columnar.Component.Name
import Columnar.Component.Registry
import Columnar.Component.Storable
import Columnar.Config
import Columnar.ConversionError
import Columnar.Datatype.Basic
import Columnar.Datatype.Json
import Columnar.Datatype.Validity
import Columnar.Decimal.Shortest
import Columnar.DecodeError
import Columnar.Digest.Basic
import Columnar.Digest.Blake3
import Columnar.Element
import Columnar.Float.Binary
import Columnar.Float.Format
import Columnar.Groups
import Columnar.Instance
import Columnar.Json.Basic
import Columnar.Json.Fields
import Columnar.Json.Numeral
import Columnar.Json.Printer
import Columnar.Json.Reader
import Columnar.NameMap
import Columnar.Native
import Columnar.Normalize.Basic
import Columnar.Normalize.Coercion
import Columnar.Normalize.Dimensions
import Columnar.Proofs.Archetype.Columns
import Columnar.Proofs.Archetype.Fields
import Columnar.Proofs.Archetype.ReadBack
import Columnar.Proofs.Array.Addressing
import Columnar.Proofs.Array.Division
import Columnar.Proofs.Array.ElementCount
import Columnar.Proofs.Array.Nested
import Columnar.Proofs.Array.Rows
import Columnar.Proofs.Batch.Absent
import Columnar.Proofs.Batch.Adopted
import Columnar.Proofs.Batch.Building
import Columnar.Proofs.Batch.Elements
import Columnar.Proofs.Batch.Empty
import Columnar.Proofs.Batch.Extended
import Columnar.Proofs.Batch.Flat
import Columnar.Proofs.Batch.Invariant
import Columnar.Proofs.Batch.Levels
import Columnar.Proofs.Batch.Nested
import Columnar.Proofs.Batch.Order
import Columnar.Proofs.Batch.Partition
import Columnar.Proofs.Batch.Split
import Columnar.Proofs.Builtin.Conservative
import Columnar.Proofs.Builtin.LooseNames
import Columnar.Proofs.Codec.BadRows
import Columnar.Proofs.Codec.Blame
import Columnar.Proofs.Codec.Conforming
import Columnar.Proofs.Codec.Described
import Columnar.Proofs.Codec.Encoding
import Columnar.Proofs.Codec.Layout
import Columnar.Proofs.Codec.Limits
import Columnar.Proofs.Codec.NormalForm
import Columnar.Proofs.Codec.Placement
import Columnar.Proofs.Codec.RoundTrip
import Columnar.Proofs.Codec.SameLayout
import Columnar.Proofs.Codec.VariantOrder
import Columnar.Proofs.Codec.Visible
import Columnar.Proofs.Column.Cells
import Columnar.Proofs.Column.Slices
import Columnar.Proofs.Component.Grammar
import Columnar.Proofs.Config
import Columnar.Proofs.Conformance
import Columnar.Proofs.Datatype.Parts
import Columnar.Proofs.Datatype.RoundTrip
import Columnar.Proofs.Datatype.Validity
import Columnar.Proofs.Datatype.Variants
import Columnar.Proofs.Float.Exact
import Columnar.Proofs.Json.Plain
import Columnar.Proofs.Json.Reading
import Columnar.Proofs.Json.Scanning
import Columnar.Proofs.NameMap
import Columnar.Proofs.Normalize.Blame
import Columnar.Proofs.Normalize.Elements
import Columnar.Proofs.Normalize.Finite
import Columnar.Proofs.Normalize.Instances
import Columnar.Proofs.Normalize.Integers
import Columnar.Proofs.Normalize.Named
import Columnar.Proofs.Normalize.Records
import Columnar.Proofs.Normalize.Regular
import Columnar.Proofs.Normalize.Supplied
import Columnar.Proofs.Normalize.Variants
import Columnar.Proofs.Normalize.Verdict
import Columnar.Proofs.Outcome
import Columnar.Proofs.Registry.Builtin
import Columnar.Proofs.Registry.Order
import Columnar.Proofs.Registry.Prefixes
import Columnar.Proofs.Registry.Providers
import Columnar.Proofs.Registry.Reachable
import Columnar.Proofs.Registry.Runs
import Columnar.Proofs.Registry.Sessions
import Columnar.Proofs.Schema.Meaning
import Columnar.Proofs.Schema.Rearranged
import Columnar.Proofs.Schema.Registration
import Columnar.Proofs.Schema.Resolution
import Columnar.Proofs.Storable.Builtin
import Columnar.Proofs.Storable.Export
import Columnar.Proofs.Storable.Faithful
import Columnar.Proofs.Storable.Runs
import Columnar.Proofs.Text.ByteOrder
import Columnar.Schema.Document
import Columnar.Text.Ascii
import Columnar.Text.Blank
import Columnar.Text.CodePoints
import Columnar.Text.ExtendingMarks
import Columnar.Text.Quoted
import Columnar.Text.Unprintable
