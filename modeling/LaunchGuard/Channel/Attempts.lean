/-
# Attempts to reach the running instance

A later launch tries to connect as often as its policy allows and stops at the first success.  What
each attempt meets is given by a script: the connect is refused, or what is done on the connection
fails, or it succeeds with a value.  Every failed attempt is logged with its number.

Where the exchange itself must not be repeated, connecting is tried in this way and the exchange is
then made once, whatever comes of it.
-/
import LaunchGuard.Fault
import LaunchGuard.Log.Entry
import LaunchGuard.Message
import LaunchGuard.Settings.Basic

namespace LaunchGuard

/-- What one attempt meets. -/
inductive Attempt (α : Type) where
  /-- The connect fails. -/
  | refused (cause : Fault)
  /-- The connect succeeds, and what is done on the connection fails. -/
  | failed (cause : String)
  | succeeded (value : α)
deriving Repr

/-- What came of all attempts. -/
structure Tried (α : Type) where
  /-- The value of the first success and the number of its attempt. -/
  success : Option (α × Nat)
  /-- The number of connects, refused ones included. -/
  connects : Nat
  /-- How often something was done on a connection. -/
  calls : Nat
deriving Repr

/-- The running instance as a later launch addresses it. -/
def address (port : Nat) : String := "127.0.0.1:" ++ toString port

namespace Attempt

variable {α : Type}

/-- The number of an attempt among all that are allowed. -/
def numbered (k total : Nat) : String := toString k ++ "/" ++ toString total

/-- The log line of a refused connect. -/
def refusal (request : Request) (addr : String) (k total : Nat) (cause : Fault) : String :=
  request.command ++ " connect attempt " ++ numbered k total ++ " to " ++ addr ++ " failed: "
    ++ cause.message

/-- The log line of a failure on the connection. -/
def failure (request : Request) (k total : Nat) (cause : String) : String :=
  request.command ++ " attempt " ++ numbered k total ++ " failed: " ++ cause

/-- Makes the attempts that are left, the next of them with number `k`. -/
def tryFrom (request : Request) (addr : String) (total : Nat) (script : Nat → Attempt α) :
    (left : Nat) → (k : Nat) → Logged (Tried α)
  | 0, _ => return ⟨none, 0, 0⟩
  | left + 1, k =>
    match script k with
    | succeeded a => return ⟨some (a, k), 1, 1⟩
    | refused cause => do
      Logged.write .debug .client (refusal request addr k total cause)
      let t ← tryFrom request addr total script left (k + 1)
      return { t with connects := t.connects + 1 }
    | failed cause => do
      Logged.write .debug .client (failure request k total cause)
      let t ← tryFrom request addr total script left (k + 1)
      return { t with connects := t.connects + 1, calls := t.calls + 1 }

/-- Makes as many attempts as the policy allows, until one succeeds. -/
def tryAll (request : Request) (addr : String) (policy : RetryPolicy)
    (script : Nat → Attempt α) : Logged (Tried α) :=
  tryFrom request addr policy.attempts script policy.attempts 1

/-- The script of connects alone: an attempt succeeds unless it is refused. -/
def connecting (refusals : Nat → Option Fault) (k : Nat) : Attempt Unit :=
  match refusals k with
  | some cause => refused cause
  | none => succeeded ()

/-- What came of connecting and one exchange. -/
structure Once (α : Type) where
  /-- The value of the exchange, or nothing; with it goes the number of the attempt that connected,
  or of all attempts if none did. -/
  result : Option α × Nat
  connects : Nat
  calls : Nat
deriving Repr

/-- Tries to connect, and on success makes the exchange of that connection once. -/
def tryThen (request : Request) (addr : String) (policy : RetryPolicy)
    (refusals : Nat → Option Fault) (exchange : Nat → Except String α) : Logged (Once α) := do
  let t ← tryAll request addr policy (connecting refusals)
  match t.success with
  | none => return ⟨(none, policy.attempts), t.connects, 0⟩
  | some (_, k) =>
    match exchange k with
    | .ok a => return ⟨(some a, k), t.connects, 1⟩
    | .error cause =>
      Logged.write .warn .client (request.command ++ " exchange failed: " ++ cause)
      return ⟨(none, k), t.connects, 1⟩

/-- Tries to connect, and on success makes the exchange once, which is the same on every
connection. -/
def tryOnce (request : Request) (addr : String) (policy : RetryPolicy)
    (refusals : Nat → Option Fault) (exchange : Except String α) : Logged (Once α) :=
  tryThen request addr policy refusals fun _ => exchange

end Attempt

end LaunchGuard
