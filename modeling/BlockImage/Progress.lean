import BlockImage.Duration

/-!
# Progress estimates

A tracker keeps the last sixteen samples and estimates speed and remaining time between the oldest of them and the
newest.
-/
namespace BlockImage.Progress

/-- So many units were done at a time, in nanoseconds. -/
structure Sample where
  time : Nat
  units : Nat
  deriving DecidableEq, Repr

structure Report where
  unitsDone : Nat
  totalUnits : Nat
  /-- Up to 100, which is kept for the end. -/
  percent : Float
  unitsPerSecond : Float
  spanPerSecond : Float
  /-- Nanoseconds since the start. -/
  elapsed : Nat
  /-- Nanoseconds to go; none while nothing moves. -/
  remaining : Option Nat

/-- The remaining time is longer than a length of time can be. -/
inductive Fault
  | remainingTooLong
  deriving DecidableEq, Repr

structure Tracker where
  start : Nat
  totalUnits : Nat
  /-- What all units together measure, for instance in bytes. -/
  totalSpan : Nat
  /-- The last samples, oldest first. -/
  window : List Sample := []
  deriving DecidableEq, Repr

namespace Tracker

def windowSize : Nat := 16

/-- Takes a sample in; the oldest one gives way when the window is full. -/
def push (tracker : Tracker) (sample : Sample) : Tracker :=
  { tracker with
    window := tracker.window.drop (tracker.window.length + 1 - windowSize) ++ [sample] }

def percent (tracker : Tracker) (units : Nat) : Float :=
  if tracker.totalUnits ≤ units then 100
  else
    let share := (UInt64.ofNat units).toFloat * 100 / (UInt64.ofNat tracker.totalUnits).toFloat
    if share < 99.99 then share else 99.99

/-- The time that is left at a speed. -/
def remaining (tracker : Tracker) (units : Nat) (speed : Float) : Except Fault (Option Nat) :=
  if tracker.totalUnits ≤ units then return some 0
  else if 0 < speed then
    match Duration.ofSeconds? ((UInt64.ofNat (tracker.totalUnits - units)).toFloat / speed) with
    | some nanos => return some nanos
    | none => throw .remainingTooLong
  else return none

/-- The estimate from the oldest sample of the window to the newest one. -/
def estimate (tracker : Tracker) (oldest newest : Sample) : Except Fault (Option Report) := do
  if newest.time ≤ oldest.time then return none
  else
    let seconds := Duration.toSeconds (newest.time - oldest.time)
    let speed := (UInt64.ofNat (newest.units - oldest.units)).toFloat / seconds
    let spanPerUnit :=
      if tracker.totalUnits = 0 then 0
      else (UInt64.ofNat tracker.totalSpan).toFloat / (UInt64.ofNat tracker.totalUnits).toFloat
    let remaining ← tracker.remaining newest.units speed
    return some {
      unitsDone := newest.units
      totalUnits := tracker.totalUnits
      percent := tracker.percent newest.units
      unitsPerSecond := speed
      spanPerSecond := speed * spanPerUnit
      elapsed := newest.time - tracker.start
      remaining }

/-- The estimate that the window allows; none before there are two samples at different times. -/
def report (tracker : Tracker) : Except Fault (Option Report) :=
  match tracker.window with
  | oldest :: later =>
    match later.getLast? with
    | some newest => tracker.estimate oldest newest
    | none => return none
  | [] => return none

/-- Takes a sample in and estimates. -/
def update (tracker : Tracker) (sample : Sample) : Tracker × Except Fault (Option Report) :=
  let tracker := tracker.push sample
  (tracker, tracker.report)

end Tracker

end BlockImage.Progress
