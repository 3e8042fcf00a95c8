/-
# The registry of launch locks

Locks live under identifiers, on one tree of files.  The system keeps for each file whether an open
handle has it locked; a lock acquires its file if no handle has, and gives it back when it is
released or goes away.

The steps are those that a process may take with its locks: create one, acquire, release, drop and
claim.  Each yields its result, the registry after it and the entries that it logs.
-/
import LaunchGuard.Lock.Basic

namespace LaunchGuard

/-- The live locks, the files, and the files that an open handle has locked. -/
structure Registry where
  tree : Tree := {}
  /-- The numbers of the locked files. -/
  held : List Nat := []
  /-- The live locks by identifier. -/
  locks : List (String × Lock) := []
deriving DecidableEq, Repr

namespace Registry

/-- The lock with an identifier. -/
def lock? (r : Registry) (id : String) : Option Lock := r.locks.lookup id

/-- The identifiers of the live locks with their states. -/
def states (r : Registry) : List (String × Ownership) :=
  r.locks.map fun e => (e.1, e.2.state)

/-- Replaces the lock with an identifier. -/
def put (r : Registry) (id : String) (l : Lock) : Registry :=
  { r with locks := r.locks.map fun e => if e.1 = id then (id, l) else e }

/-- Takes the lock with an identifier out. -/
def erase (r : Registry) (id : String) : Registry :=
  { r with locks := r.locks.filter (·.1 ≠ id) }

/-- Tries to acquire a lock.  A lock that owns its file acquires it at once; otherwise the file is
opened, and acquired if no handle has it locked.

Two things are assumed of the system.  Every user may open the file to read and write it, so it never
has to be opened again to read it only, as is done for a file that another user keeps for himself.
And locking an open file fails for no other cause than that a handle has it locked. -/
def acquireLock (r : Registry) (id : String) (l : Lock) :
    Logged (Except LockFault Acquisition × Registry) :=
  if l.state = .ownedHere then return (.ok .acquired, r)
  else match r.tree.openOrMake l.path with
    | .error f => return (.error ⟨l.name, f.message⟩, r)
    | .ok (number, tree) =>
      if number ∈ r.held then do
        Logged.write .info .lock ("Launch lock " ++ l.name ++ " is held by another process")
        return (.ok .alreadyHeld, { r with tree := tree }.put id { l with state := .heldByOther })
      else do
        Logged.write .info .lock ("Acquired launch lock " ++ l.name)
        return (.ok .acquired,
          { r with tree := tree, held := number :: r.held }.put id
            { l with state := .ownedHere, handle := some number })

/-- Releases a lock: its file is unlocked if the lock has it open. -/
def releaseLock (r : Registry) (id : String) (l : Lock) : Logged Registry :=
  match l.handle with
  | some number => do
    Logged.write .debug .lock ("Released launch lock " ++ l.name)
    return { r with held := r.held.filter (· ≠ number) }.put id
      { l with state := .unowned, handle := none }
  | none => return r.put id { l with state := .unowned }

/-- Acquires the lock with an identifier, if there is one. -/
def acquire (r : Registry) (id : String) :
    Logged (Option (Except LockFault Acquisition) × Registry) :=
  match r.lock? id with
  | none => return (none, r)
  | some l => do
    let (result, r) ← r.acquireLock id l
    return (some result, r)

/-- Releases the lock with an identifier; tells whether there is one. -/
def release (r : Registry) (id : String) : Logged (Bool × Registry) :=
  match r.lock? id with
  | none => return (false, r)
  | some l => do
    let r ← r.releaseLock id l
    return (true, r)

/-- Drops the lock with an identifier, which releases it; tells whether there was one. -/
def drop (r : Registry) (id : String) : Logged (Bool × Registry) := do
  let (found, r) ← r.release id
  return (found, r.erase id)

/-- Creates a lock; one of the same identifier is dropped for it. -/
def create (r : Registry) (id name : String) (folder : Path) : Logged Registry := do
  let (_, r) ← r.drop id
  return { r with locks := r.locks ++ [(id, { name, folder })] }

/-- Claims the launch with a live lock.  The lock stays with a primary instance, and is dropped in
every other case. -/
def claimLock (r : Registry) (id : String) (l : Lock) (enabled : Bool) :
    Logged (Except LockFault Role × Registry) := do
  let (result, r) ← LaunchGuard.claim enabled r (r.acquireLock id l)
  match result with
  | .ok .primary => return (result, r)
  | _ =>
    let (_, r) ← r.drop id
    return (result, r)

/-- Claims the launch with the lock of an identifier, if there is one. -/
def claim (r : Registry) (id : String) (enabled : Bool) :
    Logged (Option (Except LockFault Role) × Registry) :=
  match r.lock? id with
  | none => return (none, r)
  | some l => do
    let (result, r) ← r.claimLock id l enabled
    return (some result, r)

end Registry

end LaunchGuard
