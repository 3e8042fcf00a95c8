/-
# A duplicate launch

A launch that finds the lock held learns who its own user is, asks who owns the running instance,
warns the user unless it is the same one, and asks the running instance to show its window, whether
or not it warned.
-/
import LaunchGuard.Channel.Client

namespace LaunchGuard

/-- What a duplicate launch found and did. -/
structure DuplicateReport where
  localUser : Option String
  owner : Owner
  warned : Bool
  notify : NotifyOutcome
deriving DecidableEq, Repr

/-- The report as a log line shows it. -/
def DuplicateReport.shown (r : DuplicateReport) : String :=
  "Duplicate launch by " ++ Text.quote? r.localUser ++ ": owner=" ++ r.owner.shown ++ " warned="
    ++ (if r.warned then "true" else "false") ++ " notify=" ++ r.notify.shown

/-- A call that a duplicate launch has made. -/
inductive DuplicateCall where
  | resolve
  | query
  | warn (owner : Owner) (user : Option String) (text : String)
  | notify
deriving DecidableEq, Repr

/-- The report of a duplicate launch and the calls that it made, in their order. -/
structure DuplicateRun where
  report : DuplicateReport
  calls : List DuplicateCall
deriving DecidableEq, Repr

/-- What a duplicate launch calls upon, by the type of the answer. -/
inductive Duty : Type → Type where
  /-- The user of this launch. -/
  | resolve : Duty (Option String)
  /-- The owner of the running instance. -/
  | query : Duty Owner
  /-- A warning to the user, with both names. -/
  | warn (owner : Owner) (user : Option String) : Duty Unit
  /-- The request to show the window. -/
  | notify : Duty NotifyOutcome

namespace Duty

variable {α : Type}

/-- How a call goes down in the record. -/
def record : Duty α → DuplicateCall
  | resolve => .resolve
  | query => .query
  | warn owner user => .warn owner user (Warning.text owner user)
  | notify => .notify

/-- What comes of a call, where the warning goes to the log. -/
def answer (user : Logged (Option String)) (query : Logged Owner) (notify : Logged NotifyOutcome) :
    Duty α → Logged α
  | .resolve => user
  | .query => query
  | .warn owner user => Warning.give owner user
  | .notify => notify

/-- Makes a call, and records that it was made. -/
def call (answer : {β : Type} → Duty β → Logged β) (d : Duty α) :
    StateT (List DuplicateCall) Logged α := do
  modify (· ++ [d.record])
  answer d

end Duty

/-- The way of a duplicate launch to its report, where its calls are answered as given. -/
def meetInstance (answer : {α : Type} → Duty α → Logged α) :
    StateT (List DuplicateCall) Logged DuplicateReport := do
  let localUser ← Duty.resolve.call answer
  Logged.write .debug .duplicate ("Local user: " ++ Text.quote? localUser)
  let owner ← Duty.query.call answer
  let warned := owner.deservesWarning localUser
  if warned then (Duty.warn owner localUser).call answer
  else Logged.write .debug .duplicate "Running instance belongs to the same user, no warning"
  let outcome ← Duty.notify.call answer
  if !outcome.isDelivered then
    Logged.write .info .duplicate "Running instance did not answer; its window stays as it is"
  return ⟨localUser, owner, warned, outcome⟩

/-- Handles a duplicate launch.  The user of this launch, the question for the owner and the request
to show the window are given. -/
def handleDuplicate (user : Logged (Option String)) (query : Logged Owner)
    (notify : Logged NotifyOutcome) : Logged DuplicateRun := do
  let (report, calls) ← (meetInstance (Duty.answer user query notify)).run []
  return ⟨report, calls⟩

/-- A duplicate launch with what it sent to the running instance. -/
structure ChannelRun where
  run : DuplicateRun
  /-- The payloads of the question for the owner. -/
  queried : List (List UInt8)
  /-- The payloads of the request to show the window. -/
  notified : List (List UInt8)
deriving Repr

/-- Handles a duplicate launch over the channel, where the question and the request may meet
different peers. -/
def duplicateOver (user : Logged (Option String)) (addr : String) (s : Settings)
    (queryPeer notifyPeer : Peer) : Logged ChannelRun := do
  let asked := Client.query addr s.queryRetry queryPeer
  let told := Client.notify addr s.notifyRetry notifyPeer
  let run ← handleDuplicate user
    ⟨asked.value.answer, asked.log⟩ ⟨told.value.answer, told.log⟩
  return ⟨run, asked.value.sent, told.value.sent⟩

end LaunchGuard
