import BlockImage.Ends

/-!
A target that keeps nothing but its position, for checking an image without restoring it.
-/
namespace BlockImage

structure Discard where
  position : Nat := 0
  /-- The furthest position that was written up to. -/
  length : Nat := 0
  deriving DecidableEq, Repr

namespace Discard

def write (offered : ByteArray) : Call Discard Nat := fun discard =>
  let position := discard.position + offered.size
  .ok offered.size { position, length := max discard.length position }

def seek (position : Nat) : Call Discard Unit := modify fun discard => { discard with position }

/-- Moves by a distance from `origin`; positions below zero or past the largest word are refused. -/
def seekFrom (origin : Nat) (distance : Int) : Call Discard Unit :=
  let position := (origin : Int) + distance
  if position < 0 ∨ (UInt64.size : Int) ≤ position then throw .negativePosition
  else seek position.toNat

/-- A target that never fails. -/
def target : Target Discard where
  write := write
  write_le := by
    intro bytes discard taken after moved
    simp only [write, EStateM.Result.ok.injEq] at moved
    omega
  sync := return ()
  seek := seek

end Discard

end BlockImage
