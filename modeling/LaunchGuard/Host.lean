/-
# The host of the running instance

The host counts the requests to raise the main window and passes each on to the main loop as an
event.  The main loop may be gone: then the request is counted and the event is dropped.
-/
import LaunchGuard.Log.Entry

namespace LaunchGuard

/-- The host and the queue between it and the main loop. -/
structure Host where
  /-- The number of raise requests so far.  The program counts them in 64 bits, which 2^64 requests
  would overflow. -/
  raiseCount : Nat := 0
  /-- The number of events that the main loop has not received yet, or nothing once it is gone. -/
  queued : Option Nat := some 0
deriving DecidableEq, Repr

namespace Host

/-- What the main loop finds when it looks for an event. -/
inductive Received where
  | raiseRequested
  | nothing
  /-- The main loop has given up receiving. -/
  | closed
deriving DecidableEq, Repr

/-- Counts a raise request and passes it on to the main loop. -/
def raise (h : Host) : Logged Host := do
  let count := h.raiseCount + 1
  Logged.write .info .host ("Raising main window (request #" ++ toString count ++ ")")
  match h.queued with
  | some n => return ⟨count, some (n + 1)⟩
  | none =>
    Logged.write .warn .host "Main loop is gone, raise request dropped"
    return ⟨count, none⟩

/-- Takes the next event from the queue. -/
def receive (h : Host) : Received × Host :=
  match h.queued with
  | none => (.closed, h)
  | some 0 => (.nothing, h)
  | some (n + 1) => (.raiseRequested, { h with queued := some n })

/-- Ends the receiving; tells whether there was a receiver still. -/
def close (h : Host) : Bool × Host := (h.queued.isSome, { h with queued := none })

/-- What may happen to a host. -/
inductive Step where
  | raise
  | receive
  | close
deriving DecidableEq, Repr

/-- The answer to a step. -/
inductive Answer where
  | raised
  | received (r : Received)
  /-- Whether there was a receiver still. -/
  | closed (was : Bool)
deriving DecidableEq, Repr

/-- Takes one step. -/
def perform (h : Host) : Step → Logged (Answer × Host)
  | .raise => do
    return (.raised, ← h.raise)
  | .receive => return (.received h.receive.1, h.receive.2)
  | .close => return (.closed h.close.1, h.close.2)

/-- Takes steps one after the other. -/
def performAll (h : Host) : List Step → Logged (List Answer × Host)
  | [] => return ([], h)
  | s :: rest => do
    let (a, h) ← h.perform s
    let (as, h) ← h.performAll rest
    return (a :: as, h)

end Host

end LaunchGuard
