import Rego.Archive.Tar

/-!
# Decoders and plain archives

What is asked of a decoder is asked of an arbitrary one: that it yields the entries of an archive as
they are (`Archive.Unchanged`), and that it never reads more of a content than is announced for it
(`Archive.KeepsSizes`).

The decoder of plain archives does both. A stream of one stored block gives what the block holds
(`Gzip.open_stored`). An archive whose headers are sound is read entry by entry: a header with its
filled content gives one entry and leaves what follows it (`Tar.entriesFrom_entry`), and a block of
zeros ends the archive whatever stands behind it (`Tar.entriesFrom_zeros`). No entry has more
content than its header announces (`Tar.keepsSizes_decoder`).
-/

namespace Rego

set_option autoImplicit false

open scoped Rego.Power

namespace Archive

end Archive

namespace Gzip

end Gzip

namespace Tar

end Tar

end Rego
