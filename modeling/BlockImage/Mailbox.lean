import BlockImage.Session

/-!
# Sessions on a worker

A session on a worker hands its events to a mailbox of limited size. When the mailbox is full the event is dropped
and counted; the worker never waits.
-/
namespace BlockImage

structure Mailbox where
  capacity : Nat
  /-- Events that wait, oldest first. -/
  queued : List Event := []
  /-- Events that found the mailbox full. -/
  dropped : Nat := 0
  deriving DecidableEq, Repr

namespace Mailbox

/-- An empty mailbox with room for at least one event. -/
def ofCapacity (capacity : Nat) : Mailbox := { capacity := max capacity 1 }

def post (mailbox : Mailbox) (event : Event) : Mailbox :=
  if mailbox.queued.length < mailbox.capacity then { mailbox with queued := mailbox.queued ++ [event] }
  else { mailbox with dropped := mailbox.dropped + 1 }

def take (mailbox : Mailbox) : Option Event × Mailbox :=
  match mailbox.queued with
  | [] => (none, mailbox)
  | event :: later => (some event, { mailbox with queued := later })

/-- Takes all events out and keeps the newest. -/
def latest (mailbox : Mailbox) : Option Event × Mailbox :=
  (mailbox.queued.getLast?, { mailbox with queued := [] })

end Mailbox

/-- The result of a session whose worker has ended; without one the worker died. -/
def joinWorker (ended : Option (Except Error Summary)) : Except Error Summary :=
  ended.getD (.error (.io .workerLost))

end BlockImage
