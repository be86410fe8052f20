import BlockImage.Proofs.Agreement

/-!
# Logging the calls on a target

Any end can be watched: its calls do what they did, and those on a target are written down in a log beside the world.
What a program does to the log is then part of what it does to its world.
-/
namespace BlockImage

variable {ε ω α : Type}

/-- A call on a target. -/
inductive TargetCall
  | write (bytes : ByteArray)
  | seek (position : Nat)
  | sync
  deriving DecidableEq

/-- A world together with the calls on targets that were made in it. -/
structure Logged (ω : Type) where
  world : ω
  calls : List TargetCall := []

namespace Logged

/-- A computation that makes no call on a target. -/
def beside (body : EStateM ε ω α) : EStateM ε (Logged ω) α := fun logged =>
  match body logged.world with
  | .ok value world => .ok value { logged with world }
  | .error failure world => .error failure { logged with world }

/-- A call on a target, which is logged whatever becomes of it. -/
def log (call : TargetCall) (body : EStateM ε ω α) : EStateM ε (Logged ω) α := fun logged =>
  beside body { logged with calls := logged.calls ++ [call] }

theorem beside_ok {body : EStateM ε ω α} {logged after : Logged ω} {value : α}
    (returned : beside body logged = .ok value after) : body logged.world = .ok value after.world := by
  unfold beside at returned
  cases came : body logged.world with
  | ok other world =>
    rw [came] at returned
    cases returned
    rfl
  | error failure world =>
    rw [came] at returned
    cases returned

theorem calls_beside (body : EStateM ε ω α) (logged : Logged ω) :
    (stateAfter (beside body logged)).calls = logged.calls := by
  unfold beside
  cases body logged.world <;> rfl

theorem calls_log (call : TargetCall) (body : EStateM ε ω α) (logged : Logged ω) :
    (stateAfter (log call body logged)).calls = logged.calls ++ [call] := calls_beside body _

end Logged

def Stream.logged (stream : Stream ω) : Stream (Logged ω) where
  read wanted := Logged.beside (stream.read wanted)
  read_le returned := stream.read_le (Logged.beside_ok returned)

def Source.logged (source : Source ω) : Source (Logged ω) where
  toStream := source.toStream.logged
  seek position := Logged.beside (source.seek position)
  length := Logged.beside source.length

def Sink.logged (sink : Sink ω) : Sink (Logged ω) where
  write bytes := Logged.log (.write bytes) (sink.write bytes)
  write_le returned := sink.write_le (Logged.beside_ok returned)
  sync := Logged.log .sync sink.sync

def Target.logged (target : Target ω) : Target (Logged ω) where
  toSink := target.toSink.logged
  seek position := Logged.log (.seek position) (target.seek position)

/-! ### Watching changes nothing -/

/-- A watched world is the other one, and since `before` only allowed calls were logged. -/
structure Logged.Follows (allowed : TargetCall → Prop) (before : List TargetCall) (logged : Logged ω) (world : ω) :
    Prop where
  world : logged.world = world
  calls : ∃ since, logged.calls = before ++ since ∧ ∀ call ∈ since, allowed call

namespace Logged

variable {allowed : TargetCall → Prop} {before : List TargetCall}

theorem Follows.refl (logged : Logged ω) : Follows allowed logged.calls logged logged.world :=
  ⟨rfl, [], (List.append_nil _).symm, nofun⟩

theorem beside_agrees (body : EStateM ε ω α) : Agrees (Follows allowed before) (beside body) body := by
  rintro logged world ⟨rfl, calls⟩
  unfold beside
  cases body logged.world <;> exact ⟨rfl, rfl, calls⟩

theorem log_agrees {call : TargetCall} (fine : allowed call) (body : EStateM ε ω α) :
    Agrees (Follows allowed before) (log call body) body := by
  rintro logged world ⟨rfl, since, calls, only⟩
  refine beside_agrees body ⟨rfl, since ++ [call], ?_, fun other member => ?_⟩
  · rw [calls, List.append_assoc]
  · rcases List.mem_append.mp member with earlier | now
    · exact only other earlier
    · rw [List.mem_singleton.mp now]
      exact fine

end Logged

section Agree

variable {allowed : TargetCall → Prop} {before : List TargetCall}

theorem Stream.logged_agree (stream : Stream ω) : stream.logged.Agree (Logged.Follows allowed before) stream :=
  fun _ => Logged.beside_agrees _

theorem Source.logged_agree (source : Source ω) : source.logged.Agree (Logged.Follows allowed before) source where
  read := source.toStream.logged_agree
  seek _ := Logged.beside_agrees _

theorem Sink.logged_agree (sink : Sink ω) (writes : ∀ bytes, allowed (.write bytes)) :
    sink.logged.Agree (Logged.Follows allowed before) sink :=
  fun bytes => Logged.log_agrees (writes bytes) _

theorem Target.logged_agree (target : Target ω) (writes : ∀ bytes, allowed (.write bytes))
    (seeks : ∀ position, allowed (.seek position)) :
    target.logged.Agree (Logged.Follows allowed before) target where
  write := target.toSink.logged_agree writes
  seek position := Logged.log_agrees (seeks position) _

end Agree

end BlockImage
