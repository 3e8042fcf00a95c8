/-
# Launch locks

A launch lock is a name and the folder of its lock file.  The file's name is the lock's name with
every character that could lead elsewhere replaced by an underscore.  A lock that owns its file
keeps the open file, by number, as its handle.

A launch claims to be the only one by acquiring the launch lock.  If enforcement is off the lock is
left alone and the launch runs unguarded; if another instance has the lock, the launch is a
duplicate; if the lock cannot be created, nothing can be said and the claim fails.
-/
import LaunchGuard.Files.Tree
import LaunchGuard.Log.Entry

namespace LaunchGuard

/-- The name of the lock that all instances on a machine share. -/
def sharedLockName : String :=
  "BackupDatabase-SingleInstance-\x7b6f1c2a9e-3d47-4b8a-9c15-2e7f0b4d8a63\x7d"

/-- Whether a lock is owned, as far as it knows. -/
inductive Ownership where
  | unowned
  | ownedHere
  | heldByOther
deriving DecidableEq, Repr

/-- The name of a kind of ownership. -/
def Ownership.name : Ownership → String
  | unowned => "Unowned"
  | ownedHere => "OwnedByThisProcess"
  | heldByOther => "HeldByOther"

/-- How an attempt to acquire a lock ends. -/
inductive Acquisition where
  | acquired
  | alreadyHeld
deriving DecidableEq, Repr

/-- A lock whose file cannot be opened. -/
structure LockFault where
  /-- The name of the lock. -/
  name : String
  /-- Why its file cannot be opened. -/
  cause : String
deriving DecidableEq, Repr

/-- The text of a lock's fault. -/
def LockFault.message (f : LockFault) : String :=
  "Failed to create launch lock " ++ f.name ++ ": " ++ f.cause

/-- A launch lock. -/
structure Lock where
  name : String
  /-- The folder of the lock file. -/
  folder : Path
  state : Ownership := .unowned
  /-- The number of the open file, while the lock owns it. -/
  handle : Option Nat := none
deriving DecidableEq, Repr

namespace Lock

/-- The characters that a lock file's name keeps. -/
def isPlain (c : Char) : Bool := c.isAlphanum || c = '-' || c = '_' || c = '.'

/-- A lock's name with an underscore for every character that is not plain. -/
def sanitized (name : String) : List Char :=
  name.toList.map fun c => if isPlain c then c else '_'

/-- The name of the lock file. -/
def fileName (name : String) : String := String.ofList (sanitized name ++ ".lock".toList)

/-- The path of the lock file. -/
def path (l : Lock) : Path := l.folder.join (fileName l.name)

end Lock

/-! ### Claiming a launch -/

/-- What a launch is, as far as uniqueness goes. -/
inductive Role where
  /-- The first instance, which keeps the lock. -/
  | primary
  /-- Another instance is running. -/
  | duplicate
  /-- Enforcement is off. -/
  | unguarded
deriving DecidableEq, Repr

/-- The name of a role. -/
def Role.name : Role → String
  | primary => "Primary"
  | duplicate => "Duplicate"
  | unguarded => "Unguarded"

/-- Claims a launch.  The attempt to acquire the lock, which also changes the state `σ` around it,
is made only if enforcement is on. -/
def claim {σ : Type} (enabled : Bool) (s : σ)
    (attempt : Logged (Except LockFault Acquisition × σ)) :
    Logged (Except LockFault Role × σ) :=
  if !enabled then do
    Logged.write .warn .claim "Single-instance enforcement disabled, skipping launch lock"
    return (.ok .unguarded, s)
  else do
    let (answer, s) ← attempt
    match answer with
    | .error f => return (.error f, s)
    | .ok .acquired => return (.ok .primary, s)
    | .ok .alreadyHeld =>
      Logged.write .info .claim "Another instance is already running"
      return (.ok .duplicate, s)

end LaunchGuard
