import BlockImage.Ends

/-!
# Devices with faults

A device holds bytes and a position. Its `Faults` decide, call by call, how many bytes a call may move or with what
error it fails, so every pattern of short and failing calls is some value of that type.
-/
namespace BlockImage

/-- What becomes of one call that wants to move bytes. -/
inductive Response
  | moves (atMost : Nat)
  | fails (cause : IoError)
  deriving DecidableEq, Repr

/-- The behaviour of a device beside its contents. Calls are numbered from zero. -/
structure Faults where
  onRead : (call position wanted : Nat) → Response
  onWrite : (call size position offered : Nat) → Response
  onSync : (call : Nat) → Option IoError

/-- Every call moves all it can, and none fails. -/
def Faults.none : Faults where
  onRead _ _ wanted := .moves wanted
  onWrite _ _ _ offered := .moves offered
  onSync _ := .none

structure Device where
  bytes : ByteArray
  faults : Faults := .none
  position : Nat := 0
  calls : Nat := 0
  syncs : Nat := 0

namespace Device

def read (wanted : Nat) : Call Device ByteArray := fun device =>
  let called := { device with calls := device.calls + 1 }
  match device.faults.onRead device.calls device.position wanted with
  | .fails cause => .error cause called
  | .moves atMost =>
    let bytes := device.bytes.extract device.position (device.position + min wanted atMost)
    .ok bytes { called with position := device.position + bytes.size }

/-- One write at the position; the device grows as needed. -/
def write (offered : ByteArray) : Call Device Nat := fun device =>
  let called := { device with calls := device.calls + 1 }
  match device.faults.onWrite device.calls device.bytes.size device.position offered.size with
  | .fails cause => .error cause called
  | .moves atMost =>
    let taken := offered.extract 0 atMost
    .ok taken.size {
      called with
      bytes := Bytes.overwrite device.bytes device.position taken
      position := device.position + taken.size }

/-- One request to sync; every request counts, also one that fails. -/
def sync : Call Device Unit := fun device =>
  let called := { device with syncs := device.syncs + 1 }
  match device.faults.onSync device.syncs with
  | .some cause => .error cause called
  | .none => .ok () called

/-- Moves the position, which may lie past the end. -/
def seek (position : Nat) : Call Device Unit := modify fun device => { device with position }

def source : Source Device where
  read := read
  read_le := by
    intro wanted device bytes after moved
    simp only [read] at moved
    split at moved
    · cases moved
    · simp only [EStateM.Result.ok.injEq] at moved
      rw [← moved.1, ByteArray.size_extract]
      omega
  seek := seek
  length := return (← get).bytes.size

def target : Target Device where
  write := write
  write_le := by
    intro bytes device taken after moved
    simp only [write] at moved
    split at moved
    · cases moved
    · simp only [EStateM.Result.ok.injEq] at moved
      rw [← moved.1, ByteArray.size_extract]
      omega
  sync := sync
  seek := seek

end Device

/-- Positions from `start` up to but not including `stop`. -/
structure Span where
  start : Nat
  stop : Nat
  deriving DecidableEq, Repr

/-- Whether one of `count` positions from `position` on lies in the span. -/
def Span.meets (span : Span) (position count : Nat) : Bool :=
  position < span.stop && span.start < position + count

structure BadMedium where
  unreadable : List Span := []
  unwritable : List Span := []
  /-- The most bytes one call moves. -/
  callLimit : Option Nat := none
  /-- Whether the device keeps its size. -/
  fixed : Bool := false
  failingSync : Bool := false
  deriving DecidableEq, Repr

/-- Calls fail when the range they are about to move meets a bad place. -/
def BadMedium.faults (medium : BadMedium) : Faults where
  onRead _ position wanted :=
    let count := medium.callLimit.elim wanted (min wanted)
    if medium.unreadable.any (·.meets position count) then .fails (.other "medium error")
    else .moves count
  onWrite _ size position offered :=
    let count := medium.callLimit.elim offered (min offered)
    let count := if medium.fixed then min count (size - position) else count
    if medium.unwritable.any (·.meets position count) then .fails (.other "EIO") else .moves count
  onSync _ := if medium.failingSync then some (.other "sync failed") else none

end BlockImage
