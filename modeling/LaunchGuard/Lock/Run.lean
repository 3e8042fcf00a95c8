/-
# Runs of lock steps

What a process may do with its locks is a step, and any number of steps in any order is a run.
Each step is answered, and a step on an identifier without a lock changes nothing.
-/
import LaunchGuard.Lock.Registry

namespace LaunchGuard

/-- What a process may do with its locks. -/
inductive LockStep where
  | create (id name : String) (folder : Path)
  | acquire (id : String)
  | release (id : String)
  | drop (id : String)
  | claim (id : String) (enabled : Bool)
deriving DecidableEq, Repr

/-- The answer to a lock step. -/
inductive LockAnswer where
  | created
  | acquisition (a : Except LockFault Acquisition)
  | released
  /-- Whether there was a lock to drop. -/
  | dropped (found : Bool)
  | role (r : Except LockFault Role)
  /-- No lock has the identifier. -/
  | noLock
deriving Repr

/-- The identifier that a step is about. -/
def LockStep.id : LockStep → String
  | create id _ _ => id
  | acquire id => id
  | release id => id
  | drop id => id
  | claim id _ => id

namespace Registry

/-- Takes one step. -/
def perform (r : Registry) : LockStep → Logged (LockAnswer × Registry)
  | .create id name folder => do
    return (.created, ← r.create id name folder)
  | .acquire id => do
    let (result, r) ← r.acquire id
    return (result.elim .noLock .acquisition, r)
  | .release id => do
    let (found, r) ← r.release id
    return (if found then .released else .noLock, r)
  | .drop id => do
    let (found, r) ← r.drop id
    return (.dropped found, r)
  | .claim id enabled => do
    let (result, r) ← r.claim id enabled
    return (result.elim .noLock .role, r)

/-- Takes steps one after the other. -/
def performAll (r : Registry) : List LockStep → Logged (List LockAnswer × Registry)
  | [] => return ([], r)
  | s :: rest => do
    let (a, r) ← r.perform s
    let (as, r) ← r.performAll rest
    return (a :: as, r)

end Registry

end LaunchGuard
