import BlockImage.Ends

/-!
Ends that share no state: what one of them does leaves the other as it was.
-/
namespace BlockImage

variable {ε σ τ α : Type}

/-- A computation on the first part of a pair. -/
def onFirst (body : EStateM ε σ α) : EStateM ε (σ × τ) α := fun world =>
  match body world.1 with
  | .ok value first => .ok value (first, world.2)
  | .error failure first => .error failure (first, world.2)

/-- A computation on the second part of a pair. -/
def onSecond (body : EStateM ε τ α) : EStateM ε (σ × τ) α := fun world =>
  match body world.2 with
  | .ok value second => .ok value (world.1, second)
  | .error failure second => .error failure (world.1, second)

theorem onFirst_ok {body : EStateM ε σ α} {world after : σ × τ} {value : α}
    (returned : onFirst body world = .ok value after) : body world.1 = .ok value after.1 := by
  simp only [onFirst] at returned
  split at returned
  · next first h =>
    simp only [EStateM.Result.ok.injEq] at returned
    rw [h, ← returned.1, ← returned.2]
  · cases returned

theorem onSecond_ok {body : EStateM ε τ α} {world after : σ × τ} {value : α}
    (returned : onSecond body world = .ok value after) : body world.2 = .ok value after.2 := by
  simp only [onSecond] at returned
  split at returned
  · next second h =>
    simp only [EStateM.Result.ok.injEq] at returned
    rw [h, ← returned.1, ← returned.2]
  · cases returned

def Stream.ofFirst (stream : Stream σ) : Stream (σ × τ) where
  read wanted := onFirst (stream.read wanted)
  read_le returned := stream.read_le (onFirst_ok returned)

def Source.ofFirst (source : Source σ) : Source (σ × τ) where
  toStream := source.toStream.ofFirst
  seek position := onFirst (source.seek position)
  length := onFirst source.length

def Source.ofSecond (source : Source τ) : Source (σ × τ) where
  read wanted := onSecond (source.read wanted)
  read_le returned := source.read_le (onSecond_ok returned)
  seek position := onSecond (source.seek position)
  length := onSecond source.length

def Sink.ofSecond (sink : Sink τ) : Sink (σ × τ) where
  write bytes := onSecond (sink.write bytes)
  write_le returned := sink.write_le (onSecond_ok returned)
  sync := onSecond sink.sync

def Target.ofSecond (target : Target τ) : Target (σ × τ) where
  toSink := target.toSink.ofSecond
  seek position := onSecond (target.seek position)

end BlockImage
