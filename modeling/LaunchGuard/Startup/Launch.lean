/-
# A launch between two events

A launch takes one of a few courses: it waits as a service or with its window, or it ends at once,
because its filter or its arguments cannot be read, because the launch lock cannot be created, because
another launch has the lock, or for want of a runtime.  One with a window serves requests while it
waits.
-/
import LaunchGuard.Channel.Server
import LaunchGuard.Duplicate
import LaunchGuard.Lock.Basic
import LaunchGuard.Log.Filter

namespace LaunchGuard

/-- A launch that waits with its window. -/
structure Running where
  /-- Whether it has the launch lock. -/
  guarded : Bool
  /-- The port of its notification server, if it has one. -/
  server : Option Nat
  /-- The user under whom it runs. -/
  user : Option String
  host : Host := {}
deriving Repr

/-- The course that a launch takes. -/
inductive Course where
  /-- Its arguments are no text, or its filter cannot be cut into parts. -/
  | crashed
  /-- It waits without a window. -/
  | service
  /-- The launch lock cannot be created. -/
  | refused (f : LockFault)
  /-- Another launch has the lock. -/
  | duplicate (r : DuplicateReport)
  /-- It does not get the runtime that it would wait with. -/
  | noRuntime (f : Fault)
  /-- It waits with its window. -/
  | window (r : Running)
deriving Repr

/-- The exit code of a course that ends at once. -/
def Course.exitCode? : Course → Option Nat
  | crashed => some 101
  | refused _ | noRuntime _ => some 1
  | duplicate _ => some 0
  | service | window _ => none

namespace Running

/-- Handles an event of the main loop, if there is one. -/
def handleEvent (r : Running) : Logged Running := do
  match r.host.receive with
  | (.raiseRequested, host) =>
    Logged.write .info .runner "Main window brought to front"
    return { r with host }
  | _ => return r

/-- Serves one connection, and then the event that it may have led to. -/
def serve (r : Running) (peer : String) (a : Arrival) : Logged (Served × Running) := do
  let (s, host) ← Server.step r.user r.host peer a
  let r ← handleEvent { r with host }
  return (s, r)

end Running

/-- A launch with what it shows of its log. -/
structure Launch where
  id : String
  filter : Filter
  /-- Whether its log goes to the log file as well. -/
  toFile : Bool
  course : Course
  /-- The exit code, once it has ended. -/
  exitCode : Option Nat := course.exitCode?
  /-- The entries that it has shown. -/
  log : List Entry := []
deriving Repr

namespace Launch

/-- The window that the launch waits with. -/
def window? (l : Launch) : Option Running :=
  match l.exitCode, l.course with
  | none, .window r => some r
  | _, _ => none

/-- The port at which the launch listens. -/
def port? (l : Launch) : Option Nat := l.window?.bind Running.server

end Launch

end LaunchGuard
