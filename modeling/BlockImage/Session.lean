import BlockImage.Config
import BlockImage.Head
import BlockImage.Image.Front

/-!
# Sessions

A session owns its settings, its counters and its phase. An operation runs in a `Run`: the session, the running
flag, the events handed out so far, the world that the ends of the transfer live in, and the memory that there is. A
failing operation keeps the run it came to.
-/
namespace BlockImage

inductive Phase
  | idle
  | probing
  | transferring
  | finalizing
  | done
  | failed
  deriving DecidableEq, Repr

/-- What the caller is told after each chunk. -/
structure Event where
  /-- Blocks moved so far. -/
  unitsDone : Nat
  totalUnits : Nat
  /-- The block after the last one moved. -/
  position : Nat
  deriving DecidableEq, Repr

structure Summary where
  blocks : Nat := 0
  bytes : Nat := 0
  /-- Tags written or taken from the stream. -/
  tags : Nat := 0
  /-- Sectors replaced by zeros. -/
  badSectors : Nat := 0
  /-- Blocks of chunks that could not be written. -/
  skippedBlocks : Nat := 0
  /-- Allocated blocks as reported by the probe or the image. -/
  reportedBlocks : Nat := 0
  /-- Allocated blocks as counted from the bitmap. -/
  verifiedBlocks : Nat := 0
  deriving DecidableEq, Repr

/-- Whether the reported number of allocated blocks differs from the counted one. -/
def Summary.mismatch (summary : Summary) : Bool := summary.reportedBlocks != summary.verifiedBlocks

structure Session where
  direction : Direction
  config : Config
  phase : Phase := .idle
  summary : Summary := {}
  deriving DecidableEq, Repr

/-- An idle session, if the settings allow the direction. -/
def Session.start (direction : Direction) (config : Config) : Except Error Session := do
  config.validate direction
  return { direction, config }

/-- When the owner of a session clears its running flag. A session looks at the flag between chunks only, so of
what happens meanwhile only the next look can tell; the progress callback may clear the flag as well. -/
structure Owner where
  clearsBefore : (look : Nat) → Bool := fun _ => false
  clearsOn : Event → Bool := fun _ => false

/-- A session at work in a world. -/
structure Run (ω : Type) where
  session : Session
  running : Bool := true
  /-- Looks at the running flag so far. -/
  looks : Nat := 0
  events : Array Event := #[]
  world : ω
  /-- The requests for memory that are granted, by their size in bytes. -/
  grants : Nat → Bool := addressable

abbrev Transfer (ω α : Type) := EStateM Error (Run ω) α

namespace Transfer

variable {ε ε' σ ω α : Type}

/-- The outcome of a computation as a value. -/
def attempt (body : EStateM ε σ α) : EStateM ε' σ (Except ε α) := fun state =>
  match body state with
  | .ok value state => .ok (.ok value) state
  | .error failure state => .ok (.error failure) state

/-- A computation on the world of a run. -/
def inWorld (body : EStateM ε ω α) : EStateM ε (Run ω) α := fun run =>
  match body run.world with
  | .ok value world => .ok value { run with world }
  | .error failure world => .error failure { run with world }

/-- A call on a device; its failure is told as `failure` says. -/
def call (body : Call ω α) (failure : IoError → Error) : Transfer ω α := (inWorld body).adaptExcept failure

def enter (phase : Phase) : Transfer ω Unit :=
  modify fun run => { run with session := { run.session with phase } }

def tally (count : Summary → Summary) : Transfer ω Unit :=
  modify fun run => { run with session := { run.session with summary := count run.session.summary } }

/-- An operation after whose failure the session counts as failed. -/
def settling (body : Transfer ω α) : Transfer ω α := do
  match ← attempt body with
  | .ok value => return value
  | .error failure =>
    enter .failed
    throw failure

def checkRunning (owner : Owner) : Transfer ω Unit := do
  let run ← get
  let running := run.running && !owner.clearsBefore run.looks
  -- A flag that was cleared stays so: every later look ends the session too.
  set { run with running, looks := run.looks + 1 }
  unless running do throw .cancelled

/-- Hands an event to the caller, who may clear the running flag. -/
def report (owner : Owner) (totalUnits position : Nat) : Transfer ω Unit := do
  let run ← get
  let event : Event := { unitsDone := run.session.summary.blocks, totalUnits, position }
  set { run with events := run.events.push event, running := run.running && !owner.clearsOn event }

/-- Counts the blocks of a chunk as moved. -/
def countBlocks (blocks blockSize : Nat) : Transfer ω Unit :=
  tally fun summary => {
    summary with blocks := summary.blocks + blocks, bytes := summary.bytes + blocks * blockSize }

/-- Keeps the two numbers of allocated blocks. -/
def recordBlocks (descriptor : Descriptor) : Transfer ω Unit :=
  tally fun summary => {
    summary with
    reportedBlocks := descriptor.usedBlocks.toNat
    verifiedBlocks := descriptor.verifiedBlocks.toNat }

/-- Syncs the target whatever became of the transfer, and settles the final phase. A failed transfer keeps its
error even when the sync fails too. -/
def conclude (target : Sink ω) (body : Transfer ω Unit) : Transfer ω Summary :=
  settling do
    match ← attempt body with
    | .ok () =>
      enter .finalizing
      call target.sync (.write 0)
      enter .done
      return (← get).session.summary
    | .error failure =>
      -- The first failure is the one to be told.
      let _ : Except IoError Unit ← attempt (inWorld target.sync)
      throw failure

/-- Refuses working areas that there is no memory for. -/
def allocate (sizes : List Nat) : Transfer ω Unit := do
  let grants := (← get).grants
  ofExcept (sizes.forM (checkAllocation grants))

end Transfer

end BlockImage
