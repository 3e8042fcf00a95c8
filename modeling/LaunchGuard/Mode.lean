/-
# Service or interactive

A launch runs headless as a service if one of three layers says so, and interactively otherwise.
The layers are consulted in a fixed order and the first match decides:

* the session of the process is the one reserved for services;
* the service flag is among the arguments;
* the service variable has one of a few values, whatever the case of its letters.
-/
import LaunchGuard.Log.Entry
import LaunchGuard.Text.Classes
import LaunchGuard.Text.Escaped

namespace LaunchGuard

/-- The argument that makes a launch a service. -/
def serviceFlag : String := "--run-as-service"

/-- The variable that the last layer looks at. -/
def serviceVariable : String := "SERVICE_MODE"

/-- How a launch runs. -/
inductive Mode where
  | service
  | interactive
deriving DecidableEq, Repr

/-- The name of a mode. -/
def Mode.name : Mode → String
  | service => "service"
  | interactive => "ui"

/-- All that the decision looks at. -/
structure Signals where
  /-- The session of the process, if the system has such a notion. -/
  session : Option Nat
  args : List String
  /-- The value of the service variable, if it is set. -/
  serviceValue : Option String
deriving DecidableEq, Repr

/-- The layers of the decision. -/
inductive Layer where
  | session | argument | environment
deriving DecidableEq, Repr

namespace Layer

/-- The layers in the order in which they are consulted. -/
def all : List Layer := [session, argument, environment]

/-- The name of a layer. -/
def name : Layer → String
  | session => "Session"
  | argument => "Argument"
  | environment => "Environment"

/-- The values of the service variable that ask for a service. -/
def serviceValues : List String := ["server", "1", "true"]

/-- What a layer says on its own: nothing if it matches, and otherwise why it does not. -/
def probe (s : Signals) : Layer → Option String
  | session =>
    match s.session with
    | some 0 => none
    | some n => some ("session_id=" ++ toString n)
    | none => some "session id unavailable"
  | argument =>
    if serviceFlag ∈ s.args then none else some (serviceFlag ++ " not in args")
  | environment =>
    match s.serviceValue with
    | some v =>
      if String.ofList (Text.lowerAscii v.toList) ∈ serviceValues then none
      else some (serviceVariable ++ "=" ++ Text.quote v ++ " not a service value")
    | none => some (serviceVariable ++ " not set")

/-- Whether a layer matches. -/
def decides (s : Signals) (l : Layer) : Bool := (l.probe s).isNone

/-- The first of the layers that matches; those before it are logged with their reasons. -/
def firstMatch (s : Signals) : List Layer → Logged (Option Layer)
  | [] => do
    Logged.write .info .mode "Service mode: no layer matched, starting UI"
    return none
  | l :: ls =>
    match l.probe s with
    | none => do
      Logged.write .info .mode ("Service mode: matched " ++ l.name ++ " layer")
      return some l
    | some reason => do
      Logged.write .debug .mode
        ("Service mode: " ++ l.name ++ " layer no match (" ++ reason ++ ")")
      firstMatch s ls

end Layer

namespace Mode

/-- The mode that a deciding layer stands for. -/
def ofLayer : Option Layer → Mode
  | some _ => service
  | none => interactive

/-- Decides the mode of a launch, with the layer that asked for a service. -/
def detect (s : Signals) : Logged (Mode × Option Layer) := do
  let layer ← Layer.firstMatch s Layer.all
  return (ofLayer layer, layer)

end Mode

end LaunchGuard
