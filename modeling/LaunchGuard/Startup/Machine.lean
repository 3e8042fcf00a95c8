/-
# A machine and its launches

The launches of a machine share its files, its lock and its ports.  A launch is started, is sent
requests, and is interrupted.

A launch prepares itself, opens the log file, and decides its mode.  A service waits at once.  An
interactive launch claims the launch lock first: without it, because another launch has it, it acts
as a duplicate and ends; if the lock cannot be created, it refuses to go on; otherwise it starts its
notification server and waits.  Either kind ends at once if it gets no runtime to wait with.
-/
import LaunchGuard.Channel.Endpoint
import LaunchGuard.Lock.Registry
import LaunchGuard.Mode
import LaunchGuard.Startup.Environment
import LaunchGuard.Startup.Launch

namespace LaunchGuard

/-- A machine with its launches. -/
structure Machine where
  /-- The files, and the launch locks under the identifiers of the launches that made them. -/
  registry : Registry := {}
  link : Link
  /-- The name of the account, if the system knows it. -/
  account : Option String
  /-- The ports at which other programs listen. -/
  otherPorts : List Nat := []
  /-- The ports that the system gives to no server, whether or not they are taken, and why.  Zero stands
  for any port. -/
  closedPorts : List (Nat × Fault) := []
  /-- Why a server gets no thread, if it does not. -/
  threadFault : Option Fault := none
  /-- Why a launch gets no runtime, if it does not. -/
  runtimeFault : Option Fault := none
  launches : List Launch := []
  /-- The entries of the log file. -/
  journal : List Entry := []
deriving Repr

namespace Machine

/-- The folder of the launch lock, which all users share. -/
def lockFolder : Path := ⟨"/tmp"⟩

/-- The name of the log file. -/
def logFileName : String := "runner_startup.log"

/-- The path of the log file, if there is a folder for it. -/
def logPath? (e : Environment) : Option Path := e.logFolder?.map fun folder => folder.join logFileName

/-- The ports that are taken. -/
def ports (m : Machine) : List Nat := m.otherPorts ++ m.launches.filterMap Launch.port?

/-- A port that is free. -/
def freePort (m : Machine) : Nat := m.ports.foldl max 49151 + 1

/-- The user under whom a launch runs: the account, or else the user of the environment. -/
def currentUser (m : Machine) (e : Environment) : Logged (Option String) :=
  match m.account.filter (· ≠ "") with
  | some name => return some name
  | none => do
    Logged.write .debug .identity "Platform user lookup failed, falling back to environment"
    return e.user?

/-- Opens the log file, if it is wanted and can be opened. -/
def openLog (t : Tree) (e : Environment) (wanted : Bool) : Tree × Option Path :=
  match if wanted then e.logFolder? else none with
  | none => (t, none)
  | some folder =>
    match t.ensureFolders folder with
    | (t, .error _) => (t, none)
    | (t, .ok ()) =>
      match t.openOrMake (folder.join logFileName) with
      | .error _ => (t, none)
      | .ok (_, t) => (t, some (folder.join logFileName))

/-- Logs what a launch knows when logging starts. -/
def announce (t : Tree) (e : Environment) (log : Option Path) (p : Preparation) :
    Logged Unit := do
  Logged.write .info .runner "Backup Database runner starting"
  if let some path := log then
    Logged.write .debug .runner ("Startup log: " ++ path.quoted)
  if let some folder := e.settingsFolder? then
    let path := Settings.pathIn folder
    Logged.write .debug .runner
      ("Runner config: " ++ path.quoted ++ " (present: "
        ++ (if t.contains path then "true" else "false") ++ ")")
  if let some f := p.fault then
    Logged.write .warn .runner ("Failed to load runner config, using defaults: " ++ f.message)
  if p.overridden then
    Logged.write .info .runner
      (overrideVariable ++ " overrides config file: single_instance_enabled="
        ++ (if p.settings.singleInstance then "true" else "false"))

/-- Decides the mode of a launch. -/
def decideMode (e : Environment) (args : List String) : Logged Mode := do
  Logged.write .info .runner ("args=[" ++ String.intercalate ", " args ++ "]")
  let (mode, layer) ← Mode.detect ⟨none, args, e.text? serviceVariable⟩
  let shown := match layer with
    | some l => "Some(" ++ l.name ++ ")"
    | none => "None"
  Logged.write .info .runner ("Execution mode: " ++ mode.name ++ " (" ++ shown ++ ")")
  return mode

/-- The port of a server that asks for one; zero asks for any. -/
def portFor (m : Machine) (port : Nat) : Nat := if port = 0 then m.freePort else port

/-- Why a server cannot be started at a port, if it cannot. -/
def serverFault? (m : Machine) (port : Nat) : Option ServerFault :=
  match m.closedPorts.lookup port with
  | some f => some (.bind (address port) f)
  | none =>
    if m.portFor port ∈ m.ports then some (.bind (address port) .addressInUse)
    else m.threadFault.map .thread

/-- Starts the notification server of a launch; the port, if that worked.  That its thread may fail
later, and the server then listens no more, is left out. -/
def startServer (m : Machine) (port : Nat) : Logged (Option Nat) :=
  match m.serverFault? port with
  | some f => do
    Logged.write .warn .server f.warning
    return none
  | none => do
    Logged.write .info .server (listeningText (address (m.portFor port)))
    return some (m.portFor port)

/-- Shows the window of a launch and starts its server. -/
def openWindow (m : Machine) (e : Environment) (s : Settings) (guarded : Bool) :
    Logged Running := do
  Logged.write .info .runner "Entering UI branch"
  let user ← m.currentUser e
  if let some name := user then
    Logged.write .debug .runner ("Running as " ++ name)
  let server ← m.startServer s.port.toNat
  return { guarded, server, user }

/-- The launch that listens at a port, and its window. -/
def listener? (m : Machine) (port : Nat) : Option (String × Running) :=
  m.launches.findSome? fun l =>
    match l.window? with
    | some r => if r.server = some port then some (l.id, r) else none
    | none => none

/-- What a client with a request meets at a port.  Other programs accept the connection and never
answer. -/
def peer (m : Machine) (port : Nat) (r : Request) : Peer where
  refusals _ := m.link.refusal? (port ∈ m.ports)
  reply :=
    match m.listener? port with
    | some (_, running) => [.data (Server.serve running.user (.payload r.wire)).value.reply]
    | none => [.failure ⟨.wouldBlock, Fault.wouldBlock.message⟩]

/-- Adds entries to the log of a launch, as far as its filter shows them. -/
def note (m : Machine) (id : String) (entries : List Entry) : Machine :=
  match m.launches.find? (·.id = id) with
  | none => m
  | some l =>
    let shown := entries.filter l.filter.shows
    { m with
      launches := m.launches.map fun l => if l.id = id then { l with log := l.log ++ shown } else l
      journal := if l.toFile then m.journal ++ shown else m.journal }

/-- Changes the launch with an identifier. -/
def update (m : Machine) (id : String) (f : Launch → Launch) : Machine :=
  { m with launches := m.launches.map fun l => if l.id = id then f l else l }

/-- Sends a payload to a port: the bytes that come back, or nothing if the connect is refused. -/
def send (m : Machine) (port : Nat) (payload : List UInt8) : Option (List UInt8) × Machine :=
  match m.link.refusal? (port ∈ m.ports) with
  | some _ => (none, m)
  | none =>
    match m.listener? port with
    | none => (some [], m)
    | some (id, r) =>
      let served := r.serve (address m.freePort) (.payload payload)
      (some served.value.1.reply,
        (m.update id fun l => { l with course := .window served.value.2 }).note id served.log)

/-- Sends payloads to a port one after the other. -/
def sendAll (m : Machine) (port : Nat) (payloads : List (List UInt8)) : Machine :=
  payloads.foldl (fun m p => (m.send port p).2) m

/-- Ends a launch that found another instance. -/
def endDuplicate (m : Machine) (e : Environment) (s : Settings) :
    Logged (Machine × DuplicateReport) := do
  let port := s.port.toNat
  let met ← duplicateOver (m.currentUser e) (address port) s
    (m.peer port .ownerUser) (m.peer port .showWindow)
  Logged.write .info .runner met.run.report.shown
  return (m.sendAll port (met.queried ++ met.notified), met.run.report)

/-- Claims an interactive launch with the lock that all instances share, unless enforcement is off. -/
def claimShared (m : Machine) (id : String) (s : Settings) :
    Logged (Except LockFault Role × Registry) := do
  let lock : Lock := { name := sharedLockName, folder := lockFolder }
  let created ← m.registry.create id lock.name lock.folder
  created.claimLock id lock s.singleInstance

/-- Goes on with a launch that may show its window.  Without a runtime it ends, and gives up its
lock. -/
def goOn (m : Machine) (id : String) (e : Environment) (s : Settings) (guarded : Bool) :
    Logged (Machine × Course) :=
  match m.runtimeFault with
  | some f => do
    Logged.write .error .runner ("Failed to create runtime: " ++ f.message)
    let (_, registry) ← m.registry.drop id
    return ({ m with registry }, .noRuntime f)
  | none => return (m, .window (← m.openWindow e s guarded))

/-- Runs an interactive launch from its claim until it waits or ends. -/
def enter (m : Machine) (id : String) (e : Environment) (s : Settings) :
    Except LockFault Role → Logged (Machine × Course)
  | .error f => do
    Logged.write .error .runner
      (f.message ++ "; refusing to start without instance exclusion")
    return (m, .refused f)
  | .ok .duplicate => do
    let (m, report) ← m.endDuplicate e s
    return (m, .duplicate report)
  | .ok .primary => do
    Logged.write .debug .runner (sharedLockName ++ " state: " ++ Ownership.ownedHere.name)
    m.goOn id e s true
  | .ok .unguarded => m.goOn id e s false

/-- Runs an interactive launch until it waits or ends. -/
def runInteractive (m : Machine) (id : String) (e : Environment) (s : Settings) :
    Logged (Machine × Course) := do
  let (role, registry) ← m.claimShared id s
  { m with registry }.enter id e s role

/-- Runs a service until it waits or ends. -/
def runService (m : Machine) : Logged Course :=
  match m.runtimeFault with
  | some f => do
    Logged.write .error .runner ("Failed to create runtime: " ++ f.message)
    return .noRuntime f
  | none => do
    Logged.write .info .runner "Entering headless service branch"
    return .service

/-- Runs a prepared launch until it waits or ends. -/
def run (m : Machine) (id : String) (e : Environment) (log : Option Path) (p : Preparation) :
    Logged (Machine × Course) := do
  announce m.registry.tree e log p
  match e.argTexts? with
  | none => return (m, .crashed)
  | some args =>
    match ← decideMode e args with
    | .service => return (m, ← m.runService)
    | .interactive => m.runInteractive id e p.settings

/-- Starts a launch, and runs it until it waits or ends.  Without a filter it ends before it opens
the log file. -/
def start (m : Machine) (id : String) (e : Environment) : Machine :=
  match Filter.ofValue? (e.text? filterVariable) with
  | none =>
    { m with launches := m.launches ++ [{ id, filter := [], toFile := false, course := .crashed }] }
  | some filter =>
    let p := Preparation.of m.registry.tree e
    let (tree, log) := openLog m.registry.tree e p.settings.logToFile
    let started := run { m with registry := { m.registry with tree } } id e log p
    let (m, course) := started.value
    let launched : Launch := { id, filter, toFile := log.isSome, course }
    { m with launches := m.launches ++ [launched] }.note id started.log

/-- Ends a launch that waits with its window. -/
def closeWindow (m : Machine) (id : String) (r : Running) : Logged Machine := do
  Logged.write .info .runner "Received interrupt, shutting down..."
  if let some port := r.server then
    Logged.write .debug .runner ("Stopping notification server on " ++ address port)
    Logged.write .debug .server "Notification server shutting down"
  Logged.write .info .runner ("Served " ++ toString r.host.raiseCount ++ " raise requests")
  let (_, registry) ← m.registry.drop id
  Logged.write .info .runner "Backup Database runner stopped"
  return { m with registry }

/-- The launch with an identifier. -/
def launch? (m : Machine) (id : String) : Option Launch := m.launches.find? (·.id = id)

/-- Ends a launch with success. -/
def finish (m : Machine) (id : String) : Machine :=
  m.update id fun l => { l with exitCode := some 0 }

/-- Interrupts a launch; one that waits ends with success. -/
def interrupt (m : Machine) (id : String) : Machine :=
  match m.launch? id with
  | none => m
  | some l =>
    if l.exitCode.isSome then m
    else match l.course with
      | .window r =>
        let closed := m.closeWindow id r
        (closed.value.finish id).note id closed.log
      | _ => (m.finish id).note id [⟨.info, .runner, "Headless service stopped"⟩]

/-- The number of entries of the log file, if there is one. -/
def journalLength? (m : Machine) (e : Environment) : Option Nat :=
  if (logPath? e).any m.registry.tree.contains then some m.journal.length else none

end Machine

end LaunchGuard
