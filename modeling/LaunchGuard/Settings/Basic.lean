/-
# Settings

The settings of the program: the port of the notification channel, two switches, and two retry
policies, one for asking the running instance to show itself and one for asking who owns it.  Times
are in milliseconds.

A variable of the environment may switch the enforcement of a single instance on or off, whatever
the settings say.  A few words mean off, blanks around them and the case of their letters aside, and
every other value means on.
-/
import LaunchGuard.Text.Classes

namespace LaunchGuard

/-- How often a later launch tries to reach the running instance, and how patiently. -/
structure RetryPolicy where
  /-- The number of attempts; zero counts as one. -/
  maxAttempts : UInt32
  /-- The time limit of an attempt, in milliseconds. -/
  timeout : UInt64
  /-- The pause between two attempts, in milliseconds. -/
  delay : UInt64
deriving DecidableEq, Repr

namespace RetryPolicy

/-- The policy for asking the running instance to show itself. -/
def notifyDefault : RetryPolicy := ⟨5, 500, 200⟩

/-- The policy for asking who owns the running instance; shorter, since the answer is only
advice. -/
def queryDefault : RetryPolicy := ⟨3, 300, 100⟩

/-- The number of attempts that the policy allows. -/
def attempts (p : RetryPolicy) : Nat := max 1 p.maxAttempts.toNat

end RetryPolicy

/-- A time limit that sockets accept: they refuse zero. -/
def clampTimeout (ms : UInt64) : UInt64 := max ms 1

/-- The port of the notification channel unless the settings name another. -/
def defaultPort : UInt16 := 45931

/-- The settings of the program. -/
structure Settings where
  /-- The port of the notification channel. -/
  port : UInt16 := defaultPort
  /-- Whether only one instance may run. -/
  singleInstance : Bool := true
  /-- Whether the log goes to a file as well. -/
  logToFile : Bool := true
  notifyRetry : RetryPolicy := RetryPolicy.notifyDefault
  queryRetry : RetryPolicy := RetryPolicy.queryDefault
deriving DecidableEq, Repr

/-! ### The override of enforcement -/

/-- The variable that overrides the enforcement. -/
def overrideVariable : String := "SINGLE_INSTANCE_ENABLED"

namespace Settings

/-- The values that switch the enforcement off. -/
def offWords : List String := ["false", "0", "no", "off"]

/-- Whether a value of the variable leaves the enforcement on. -/
def enforces (value : String) : Bool :=
  String.ofList (Text.lowerAscii (Text.trim value.toList)) ∉ offWords

/-- The settings after the override, and whether it changed them. -/
def override (s : Settings) : Option String → Bool × Settings
  | none => (false, s)
  | some value =>
    (enforces value != s.singleInstance, { s with singleInstance := enforces value })

/-- Applies overrides one after the other; for each, whether it changed the settings. -/
def overrideAll (s : Settings) : List (Option String) → List Bool × Settings
  | [] => ([], s)
  | v :: rest =>
    let (changed, s) := s.override v
    let (more, s) := s.overrideAll rest
    (changed :: more, s)

end Settings

end LaunchGuard
