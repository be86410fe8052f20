import BlockImage.Ends

/-!
A stream that is read in large pieces and handed out in small ones.
-/
namespace BlockImage

/-- A world together with bytes that were read from it but not yet asked for. -/
structure ReadAhead (ω : Type) where
  world : ω
  held : ByteArray := ByteArray.empty

namespace ReadAhead

variable {ε ω α : Type}

/-- Bytes asked for at a time. -/
def pieceSize : Nat := 8192

def below (body : EStateM ε ω α) : EStateM ε (ReadAhead ω) α := fun buffered =>
  match body buffered.world with
  | .ok value world => .ok value { buffered with world }
  | .error failure world => .error failure { buffered with world }

theorem below_ok {body : EStateM ε ω α} {buffered after : ReadAhead ω} {value : α}
    (returned : below body buffered = .ok value after) : body buffered.world = .ok value after.world := by
  simp only [below] at returned
  split at returned
  · next world h =>
    simp only [EStateM.Result.ok.injEq] at returned
    rw [h, ← returned.1, ← returned.2]
  · cases returned

def handOut (wanted : Nat) : Call (ReadAhead ω) ByteArray := fun buffered =>
  .ok (buffered.held.extract 0 wanted)
    { buffered with held := buffered.held.extract wanted buffered.held.size }

/-- Reads a piece of the stream and holds it. -/
def fetch (stream : Stream ω) : Call (ReadAhead ω) Unit := do
  let piece ← below (stream.read pieceSize)
  modify fun buffered => { buffered with held := piece }

/-- Held bytes are handed out first. When none are held, a request of at least a piece is passed on. -/
def read (stream : Stream ω) (wanted : Nat) : Call (ReadAhead ω) ByteArray := do
  if 0 < (← get).held.size then handOut wanted
  -- Such a request needs no piece in between.
  else if pieceSize ≤ wanted then below (stream.read wanted)
  else
    fetch stream
    handOut wanted

theorem size_handOut_le {wanted : Nat} {buffered after : ReadAhead ω} {bytes : ByteArray}
    (returned : handOut wanted buffered = .ok bytes after) : bytes.size ≤ wanted := by
  simp only [handOut, EStateM.Result.ok.injEq] at returned
  rw [← returned.1, ByteArray.size_extract]
  omega

end ReadAhead

variable {ω : Type}

def Stream.readAhead (stream : Stream ω) : Stream (ReadAhead ω) where
  read := ReadAhead.read stream
  read_le := by
    intro wanted buffered bytes after returned
    change (if 0 < buffered.held.size then ReadAhead.handOut wanted
      else if ReadAhead.pieceSize ≤ wanted then ReadAhead.below (stream.read wanted)
      else EStateM.bind (ReadAhead.fetch stream) fun _ => ReadAhead.handOut wanted) buffered = _ at returned
    split at returned
    · exact ReadAhead.size_handOut_le returned
    · split at returned
      · exact stream.read_le (ReadAhead.below_ok returned)
      · simp only [EStateM.bind] at returned
        split at returned
        · exact ReadAhead.size_handOut_le returned
        · cases returned

def Target.besideReadAhead (target : Target ω) : Target (ReadAhead ω) where
  write bytes := ReadAhead.below (target.write bytes)
  write_le returned := target.write_le (ReadAhead.below_ok returned)
  sync := ReadAhead.below target.sync
  seek position := ReadAhead.below (target.seek position)

end BlockImage
