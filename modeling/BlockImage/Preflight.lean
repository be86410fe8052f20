import BlockImage.Decimal
import BlockImage.Error

/-!
Checks that run once, before anything is created or cut short.
-/
namespace BlockImage

/-- What the machine has to offer; an unknown figure stops nothing. -/
structure Machine where
  availableMemory : Option Nat := none
  availableSpace : Option Nat := none
  deriving DecidableEq, Repr

namespace Machine

/-- Refuses a session that needs more memory than is available. -/
def ensureMemory (machine : Machine) (needed : Nat) : Except Error Unit :=
  match machine.availableMemory with
  | some available => if available < needed then throw (.insufficientMemory needed available) else return ()
  | none => return ()

/-- Refuses a session that needs more room for files than is free. -/
def ensureSpace (machine : Machine) (needed : Nat) : Except Error Unit :=
  match machine.availableSpace with
  | some available => if available < needed then throw (.insufficientSpace needed available) else return ()
  | none => return ()

/-- The available memory in a table of figures that counts it in units of 1024 bytes. -/
def memoryIn? (table : String) : Option Nat := do
  let row ← (table.splitOn "\n").find? (·.startsWith "MemAvailable:")
  let figure ← Decimal.ofDigits? (row.toList.filter Char.isDigit)
  return figure * 1024

end Machine

/-- Working memory of a session: its bitmap and its two buffers, as a 64-bit figure. -/
def sessionMemory (bitmapBytes readBuffer writeBuffer : Nat) : Nat :=
  (bitmapBytes + readBuffer + writeBuffer) % UInt64.size

/-- Refuses a target of fixed size that is too small. -/
def ensureTargetSize (size needed : Nat) : Except Error Unit :=
  if size < needed then throw (.insufficientSpace needed size) else return ()

end BlockImage
