/-
# The side of the running instance

The running instance reads one request from each connection, once and up to the length of a message.
It raises its window, or answers with the name of its user, and closes the connection.  A connection
that stays silent, breaks, or sends anything else is dropped; the others are served all the same.

Its server needs a port and a thread.  Without them there is no channel, which is logged as a warning
and does no further harm.
-/
import LaunchGuard.Fault
import LaunchGuard.Host
import LaunchGuard.Message

namespace LaunchGuard

/-- The log line of a server that listens. -/
def listeningText (addr : String) : String := "Notification server listening on " ++ addr

/-- Why a server does not start. -/
inductive ServerFault where
  /-- It does not get its address. -/
  | bind (addr : String) (f : Fault)
  /-- It does not get a thread. -/
  | thread (f : Fault)
deriving DecidableEq, Repr

namespace ServerFault

/-- The text of the fault. -/
def message : ServerFault → String
  | bind addr f => "Failed to bind notification port " ++ addr ++ ": " ++ f.message
  | thread f => "Failed to start notification server thread: " ++ f.message

/-- The log line of a server that does not start. -/
def warning (f : ServerFault) : String := f.message ++ "; notification channel unavailable"

end ServerFault

/-- What a connection brings. -/
inductive Arrival where
  /-- These bytes, in one piece; none at all if the other side closed at once. -/
  | payload (bytes : List UInt8)
  /-- Nothing until the time limit. -/
  | silence
  /-- The other side resets the connection. -/
  | reset
deriving DecidableEq, Repr

/-- Why a connection is dropped. -/
inductive Dropped where
  | broken (f : Fault)
  | silent
  | rejected (f : MessageFault)
deriving DecidableEq, Repr

/-- The text of the cause. -/
def Dropped.message : Dropped → String
  | broken f => "IO error: " ++ f.message
  | silent => "no request within 2s"
  | rejected f => f.message

/-- What a connection leads to. -/
structure Served where
  outcome : Except Dropped Unit
  /-- The bytes that go back. -/
  reply : List UInt8 := []
  /-- Whether the host is asked to raise its window. -/
  raises : Bool := false
deriving Repr

namespace Server

/-- The request that a connection brings. -/
def request : Arrival → Except Dropped Request
  | .payload bytes => (Request.parse (bytes.take messageLimit)).mapError .rejected
  | .silence => .error .silent
  | .reset => .error (.broken .connectionReset)

/-- Serves one connection of an instance that runs under `user`. -/
def serve (user : Option String) (a : Arrival) : Logged Served :=
  match request a with
  | .error cause => return { outcome := .error cause }
  | .ok r => do
    Logged.write .debug .server ("Received " ++ r.command)
    match r, user with
    | .showWindow, _ => return { outcome := .ok (), raises := true }
    | .ownerUser, some name => return { outcome := .ok (), reply := (Reply.owner name).encode }
    | .ownerUser, none =>
      Logged.write .warn .server "Could not resolve OS user, closing without reply"
      return { outcome := .ok () }

/-- Serves one connection: a request to raise the window goes to the host, and a connection that is
dropped is logged with its other side. -/
def step (user : Option String) (h : Host) (peer : String) (a : Arrival) :
    Logged (Served × Host) := do
  let s ← serve user a
  let h ← if s.raises then h.raise else pure h
  match s.outcome with
  | .error cause =>
    Logged.write .debug .server ("Connection from " ++ peer ++ " dropped: " ++ cause.message)
    return (s, h)
  | .ok () => return (s, h)

/-- Serves connections in the order in which they are handled. -/
def run (user : Option String) : Host → List (String × Arrival) → Logged (List Served × Host)
  | h, [] => return ([], h)
  | h, (peer, a) :: rest => do
    let (s, h) ← step user h peer a
    let (ss, h) ← run user h rest
    return (s :: ss, h)

end Server

end LaunchGuard
