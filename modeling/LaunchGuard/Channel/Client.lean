/-
# Asking the running instance

A later launch asks the running instance to show its window, and asks who owns it.  Neither question
ever fails loudly: without an answer the window stays as it is, and the owner stays unknown.

The other side is described by a peer: which connects it refuses, on which connections a request cannot
be sent, and what reading its reply meets.  A request to show the window that cannot be sent is tried
again; a question for the owner is not.
-/
import LaunchGuard.Channel.Attempts
import LaunchGuard.Channel.Reading
import LaunchGuard.Message
import LaunchGuard.Owner

namespace LaunchGuard

/-- The other side of the channel. -/
structure Peer where
  /-- Why the connect of an attempt is refused, if it is. -/
  refusals : Nat → Option Fault
  /-- What reading the reply meets. -/
  reply : List ReadEvent := []
  /-- Why a request cannot be sent on the connection of an attempt, if it cannot. -/
  breaks : Nat → Option Fault := fun _ => none

/-- Whether the running instance was asked to show its window. -/
inductive NotifyOutcome where
  | delivered (attempt : Nat)
  | unreachable (attempts : Nat)
deriving DecidableEq, Repr

namespace NotifyOutcome

/-- Whether the request got through. -/
def isDelivered : NotifyOutcome → Bool
  | delivered _ => true
  | unreachable _ => false

/-- The outcome as log lines show it. -/
def shown : NotifyOutcome → String
  | delivered k => "Delivered \x7b attempt: " ++ toString k ++ " \x7d"
  | unreachable n => "Unreachable \x7b attempts: " ++ toString n ++ " \x7d"

end NotifyOutcome

/-- Why an exchange yields no reply. -/
inductive ExchangeFault where
  | sending (f : Fault)
  | reading (f : ReadFailure)
  | message (f : MessageFault)
deriving DecidableEq, Repr

/-- The text of the fault. -/
def ExchangeFault.text : ExchangeFault → String
  | sending f => f.message
  | reading f => f.text
  | message f => f.message

/-- The answer to a question, and the payloads that went out whole for it, one for each connection. -/
structure Asked (α : Type) where
  answer : α
  sent : List (List UInt8)
deriving Repr

/-- What an attempt to send a request meets. -/
def Peer.sending (p : Peer) (k : Nat) : Attempt Unit :=
  match p.refusals k with
  | some cause => .refused cause
  | none =>
    match p.breaks k with
    | some cause => .failed cause.message
    | none => .succeeded ()

namespace Client

/-- Asks the running instance to show its window. -/
def notify (addr : String) (policy : RetryPolicy) (peer : Peer) :
    Logged (Asked NotifyOutcome) := do
  let t ← Attempt.tryAll .showWindow addr policy peer.sending
  match t.success with
  | some (_, k) =>
    Logged.write .info .client
      ("Asked running instance to show its window (attempt " ++ toString k ++ ")")
    return ⟨.delivered k, [Request.showWindow.wire]⟩
  | none =>
    Logged.write .info .client
      ("Could not reach running instance after " ++ toString policy.attempts
        ++ " attempts, giving up")
    return ⟨.unreachable policy.attempts, []⟩

/-- The reply that comes of reading, or why there is none. -/
def exchange (events : List ReadEvent) : Except ExchangeFault Reply :=
  match (readReply messageLimit events).result with
  | .error f => .error (.reading f)
  | .ok bytes => (Reply.decode bytes).mapError .message

/-- The reply that comes of asking on the connection of an attempt, or why there is none. -/
def ask (peer : Peer) (k : Nat) : Except ExchangeFault Reply :=
  match peer.breaks k with
  | some cause => .error (.sending cause)
  | none => exchange peer.reply

/-- Asks the running instance who owns it. -/
def query (addr : String) (policy : RetryPolicy) (peer : Peer) : Logged (Asked Owner) := do
  let t ← Attempt.tryThen .ownerUser addr policy peer.refusals
    fun k => (ask peer k).mapError ExchangeFault.text
  let owner ← match t.result.1 with
    | some (.owner name) => pure (Owner.known name)
    | some .empty => do
      Logged.write .debug .client "Running instance sent no user info"
      pure Owner.unknown
    | none => pure Owner.unknown
  Logged.write .debug .client ("Owner of running instance: " ++ owner.shown)
  let sent := t.calls ≠ 0 && (peer.breaks t.result.2).isNone
  return ⟨owner, if sent then [Request.ownerUser.wire] else []⟩

end Client

end LaunchGuard
