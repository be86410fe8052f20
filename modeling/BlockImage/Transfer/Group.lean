import BlockImage.Checksum.Register
import BlockImage.Head

/-!
# Groups of blocks

The data of an image is cut into groups of blocks, each followed by the tag of a running register. A group goes on
from one chunk to the next.
-/
namespace BlockImage

/-- Whether the data holds tags. -/
def Options.tagged (options : Options) : Bool :=
  0 < options.blocksPerChecksum.toNat && 0 < options.checksum.tagSize

/-- The group that is being filled. -/
structure Group where
  register : Checksum.Register
  /-- Blocks in it so far. -/
  filled : Nat := 0
  deriving DecidableEq, Repr

namespace Group

def first (options : Options) : Group := { register := .fresh options.checksum }

/-- The group with one more block. -/
def add (group : Group) (block : ByteArray) : Group :=
  { register := group.register.update block, filled := group.filled + 1 }

/-- The group after the tag of this one. -/
def next (group : Group) (options : Options) : Group :=
  { register := if options.reseed then group.register.reset else group.register }

end Group

end BlockImage
