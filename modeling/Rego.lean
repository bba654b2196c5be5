import Rego.Value.Hash
import Rego.Value.Merge
import Rego.Ty.Json
import Rego.Ty.Matching
import Rego.Text.Case
import Rego.Text.Search
import Rego.Encoding.Hex
import Rego.Encoding.Base64
import Rego.Digest.Md5
import Rego.Digest.Sha1
import Rego.Digest.Sha256
import Rego.Digest.Sha512
import Rego.Digest.Hmac
import Rego.Random
import Rego.Uuid
import Rego.Value.Format
import Rego.Builtin.Metadata
import Rego.Builtin.Implementation
import Rego.Builtin.Declared.Arithmetic
import Rego.Builtin.Declared.Ordering
import Rego.Builtin.Declared.Collections
import Rego.Builtin.Declared.Strings
import Rego.Builtin.Declared.Conversions
import Rego.Builtin.Declared.Encodings
import Rego.Builtin.Declared.Effects
import Rego.Builtin.Registry
import Rego.Bundle.Archive
import Rego.Proofs.Double.Nearest
import Rego.Proofs.Double.Order
import Rego.Proofs.Number.Order
import Rego.Proofs.Value.Order
import Rego.Proofs.Builtin.Calls
import Rego.Proofs.Builtin.Ordering
import Rego.Proofs.Bundle.Containment
import Rego.Proofs.Bundle.Assembly
import Rego.Proofs.Bundle.Reordering
import Rego.Proofs.Bundle.Overlap
import Rego.Proofs.Double.Shortest
import Rego.Proofs.Json.Grammar
import Rego.Proofs.Json.Layout
import Rego.Proofs.Text.Blank
import Rego.Proofs.Text.Splitting
import Rego.Proofs.Number.Grammar
import Rego.Proofs.Number.Text
import Rego.Proofs.Value.Encoding
import Rego.Proofs.Value.RoundTrip
import Rego.Proofs.Value.Join
import Rego.Proofs.Value.Patching
import Rego.Proofs.Bundle.Gathering
import Rego.Proofs.Value.Keeping
import Rego.Proofs.Bundle.Outcome
import Rego.Proofs.Builtin.Strictness
import Rego.Proofs.Builtin.Arithmetic
import Rego.Proofs.Builtin.Collections
import Rego.Proofs.Builtin.Texts
import Rego.Proofs.Builtin.Effects
import Rego.Proofs.Ty.Equality
import Rego.Proofs.Builtin.Cache
import Rego.Proofs.Builtin.Declarations
import Rego.Proofs.Builtin.Steps
import Rego.Proofs.Builtin.Stability
import Rego.Proofs.Bundle.Ownership
import Rego.Proofs.Ty.Names
import Rego.Proofs.Ty.RoundTrip
import Rego.Proofs.Bundle.Sources
import Rego.Proofs.Value.Canonical
import Rego.Proofs.Value.Preserving
import Rego.Proofs.Builtin.Forming
import Rego.Proofs.Builtin.Produced
import Rego.Proofs.Number.Exact
import Rego.Proofs.Value.Hashing
import Rego.Proofs.Value.Rereading
import Rego.Proofs.Value.Writing
import Rego.Proofs.Builtin.Totals
import Rego.Proofs.Double.Closest
import Rego.Proofs.Number.Division
import Rego.Proofs.Number.Literal
import Rego.Proofs.Number.Bits
import Rego.Proofs.Builtin.Radix
import Rego.Proofs.Value.Refusal
import Rego.Proofs.Builtin.Agreement
import Rego.Proofs.Format.Composition
import Rego.Proofs.Format.Padding
import Rego.Proofs.Builtin.Conversions
import Rego.Proofs.Builtin.Strings
import Rego.Proofs.Builtin.Splitting
import Rego.Proofs.Text.Positions
import Rego.Proofs.Builtin.Searching
import Rego.Proofs.Builtin.Trimming
import Rego.Proofs.Builtin.Ranges
import Rego.Proofs.Value.Classes
import Rego.Proofs.Value.Members
import Rego.Proofs.Builtin.Lookups
import Rego.Proofs.Builtin.Objects
import Rego.Proofs.Builtin.Sets
import Rego.Proofs.Builtin.Sorting
import Rego.Proofs.Builtin.Slices
import Rego.Proofs.Builtin.Encodings
import Rego.Proofs.Builtin.Identifiers
import Rego.Proofs.Builtin.Quantities
import Rego.Proofs.Ty.Meaning
import Rego.Proofs.Records
import Rego.Proofs.Overflow
