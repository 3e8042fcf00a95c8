/-
# A channel under one roof

An endpoint is a notification server that may be started, stopped and asked, together with the
address at which it listens.  Clients reach it only while it listens and the loopback link is up;
the link also decides which fault they meet otherwise.
-/
import LaunchGuard.Channel.Server
import LaunchGuard.Duplicate

namespace LaunchGuard

/-- Whether the loopback link of the machine works. -/
inductive Link where
  | up
  | down
deriving DecidableEq, Repr

/-- Why a connect is refused: the link is down, or nobody listens. -/
def Link.refusal? (l : Link) (listening : Bool) : Option Fault :=
  match l, listening with
  | .down, _ => some .networkUnreachable
  | .up, false => some .connectionRefused
  | .up, true => none

/-- A notification server and what is around it. -/
structure Endpoint where
  link : Link
  /-- The port at which it listens, or did so last. -/
  port : Nat := 0
  listening : Bool := false
  /-- The user of the process with the server. -/
  user : Option String := none
  /-- The host behind the server, which counts the requests to raise its window. -/
  host : Host := {}
deriving Repr

namespace Endpoint

/-- Starts a server at a port; one that runs is stopped. -/
def start (e : Endpoint) (port : Nat) : Logged Endpoint := do
  Logged.write .info .server (listeningText (address port))
  return { e with port, listening := true }

/-- Tries to start another server at the same port; tells whether it started.  It is stopped at
once. -/
def startAgain (e : Endpoint) : Logged Bool := do
  if e.listening then
    Logged.write .warn .server (ServerFault.bind (address e.port) .addressInUse).warning
    return false
  else
    Logged.write .info .server (listeningText (address e.port))
    return true

/-- Stops the server; tells whether it was running. -/
def stop (e : Endpoint) : Bool × Endpoint := (e.listening, { e with listening := false })

/-- Serves one connection: what it leads to, or nothing if it is refused. -/
def connect (e : Endpoint) (a : Arrival) : Except Fault Served × Endpoint :=
  match e.link.refusal? e.listening with
  | some f => (.error f, e)
  | none =>
    let (s, host) := (Server.step e.user e.host (address e.port) a).value
    (.ok s, { e with host })

/-- Serves the connections that carried these payloads. -/
def connectAll (e : Endpoint) (payloads : List (List UInt8)) : Endpoint :=
  payloads.foldl (fun e p => (e.connect (.payload p)).2) e

/-- The endpoint as a client with a request meets it. -/
def peer (e : Endpoint) (r : Request) : Peer where
  refusals _ := e.link.refusal? e.listening
  reply := [.data (Server.serve e.user (.payload r.wire)).value.reply]

/-- A client asks the server to show its window. -/
def notify (e : Endpoint) (policy : RetryPolicy) : Logged (NotifyOutcome × Endpoint) := do
  let asked ← Client.notify (address e.port) policy (e.peer .showWindow)
  return (asked.answer, e.connectAll asked.sent)

/-- A client asks for the owner. -/
def query (e : Endpoint) (policy : RetryPolicy) : Logged (Owner × Endpoint) := do
  let asked ← Client.query (address e.port) policy (e.peer .ownerUser)
  return (asked.answer, e.connectAll asked.sent)

/-- A duplicate launch meets the server. -/
def duplicate (e : Endpoint) (user : Option String) (s : Settings) :
    Logged (DuplicateRun × Endpoint) := do
  let met ← duplicateOver (pure user) (address e.port) s (e.peer .ownerUser) (e.peer .showWindow)
  return (met.run, e.connectAll (met.queried ++ met.notified))

/-- Several clients ask the server to show its window; tells how many got through. -/
def notifyMany (e : Endpoint) (policy : RetryPolicy) : Nat → Nat × Endpoint
  | 0 => (0, e)
  | n + 1 =>
    let (count, e) := e.notifyMany policy n
    let (outcome, e) := (e.notify policy).value
    (count + outcome.isDelivered.toNat, e)

end Endpoint

end LaunchGuard
