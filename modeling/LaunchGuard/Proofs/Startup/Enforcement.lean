/-
# A single instance is enforced unless it is switched off

Whether the launch lock is needed depends on the settings file, on what is done if it cannot be
loaded, and on a variable that comes after both; whether it is had depends on the files and on the
other launches.  What an interactive launch may do with all of this is one of four things, and the
conditions for these leave no room between them: only words that mean off, or settings that could be
loaded and say so, open a window without the lock.
-/
import LaunchGuard.Proofs.Startup.Launching

namespace LaunchGuard

/-- The variable for the override has a value that is text and means off. -/
def Environment.SaysOff (e : Environment) : Prop :=
  ∃ bytes cs, e.vars.lookup overrideVariable = some bytes ∧ Text.Utf8.decode? bytes = some cs ∧
    String.ofList (Text.lowerAscii (Text.trim cs)) ∈ ["false", "0", "no", "off"]

/-- Enforcement is off: the variable says so, or it says nothing that is text and the settings could
be loaded and say so. -/
def EnforcementOff (t : Tree) (e : Environment) : Prop :=
  e.SaysOff ∨
    (∀ bytes, e.vars.lookup overrideVariable = some bytes → Text.Utf8.decode? bytes = none) ∧
      ∃ s, Preparation.load t e = .ok s ∧ s.singleInstance = false

/-- Settings that could not be loaded leave enforcement on. -/
lemma singleInstance_loaded (t : Tree) (e : Environment) :
    (Preparation.loaded t e).1.singleInstance = false ↔
      ∃ s, Preparation.load t e = .ok s ∧ s.singleInstance = false := by
  unfold Preparation.loaded
  cases hload : Preparation.load t e with
  | error f => simp
  | ok s => simp

/-- The settings of a launch come to just this, whether or not they were loaded. -/
lemma enforcementOff_iff (t : Tree) (e : Environment) :
    EnforcementOff t e ↔ (Preparation.of t e).settings.singleInstance = false := by
  have hsettings : (Preparation.of t e).settings =
      ((Preparation.loaded t e).1.override (e.text? overrideVariable)).2 := by
    simp only [Preparation.of]
  simp only [EnforcementOff, Environment.SaysOff, hsettings, Environment.text?,
    ← singleInstance_loaded]
  cases hlookup : e.vars.lookup overrideVariable with
  | none => simp [Settings.override]
  | some bytes =>
    cases hdecode : Text.Utf8.decode? bytes with
    | none => simp [Settings.override, hdecode]
    | some cs =>
      have hvalue : Settings.enforces (String.ofList cs) = false ↔
          String.ofList (Text.lowerAscii (Text.trim cs)) ∈ ["false", "0", "no", "off"] := by
        rw [Settings.enforces, Settings.offWords, String.toList_ofList, decide_eq_false_iff_not,
          not_not]
      simp only [Settings.override, hdecode, Option.bind_some, Option.map_some, hvalue]
      simp [hdecode]

namespace Machine

variable {m : Machine} {id : String} {e : Environment} {s : Settings}

/-! ### The window and its server -/

lemma freePort_notMem_ports (m : Machine) : m.freePort ∉ m.ports := by
  intro hmem
  have hle := (Pattern.le_foldl_max m.ports 49151).2 _ hmem
  rw [freePort] at hle
  omega

/-- A server can be started unless the system does not give its port, another program has the port, or
there is no thread.  Any port will do if none is named. -/
lemma serverFault?_eq_none_iff (m : Machine) (port : Nat) :
    m.serverFault? port = none ↔ m.closedPorts.lookup port = none ∧
      (port = 0 ∨ port ∉ m.ports) ∧ m.threadFault = none := by
  have htaken : m.portFor port ∉ m.ports ↔ port = 0 ∨ port ∉ m.ports := by
    rw [portFor]
    split
    · next hzero => exact iff_of_true m.freePort_notMem_ports (.inl hzero)
    · next hnamed => exact (or_iff_right hnamed).symm
  rw [serverFault?]
  cases m.closedPorts.lookup port with
  | some f => simp
  | none =>
    rw [← htaken]
    by_cases hport : m.portFor port ∈ m.ports <;> simp [hport]

/-- The port of the server that a launch starts, if it can be started. -/
lemma value_startServer (m : Machine) (port : Nat) :
    (m.startServer port).value =
      if m.closedPorts.lookup port = none ∧ (port = 0 ∨ port ∉ m.ports) ∧ m.threadFault = none then
        some (if port = 0 then m.freePort else port)
      else none := by
  have hfree := m.serverFault?_eq_none_iff port
  rw [startServer]
  cases hfault : m.serverFault? port with
  | none => exact (if_pos (hfree.1 hfault)).symm
  | some f =>
    rw [hfault] at hfree
    exact (if_neg (mt hfree.2 nofun)).symm

/-- Starting the server is logged, whether or not it listens. -/
lemma log_startServer (m : Machine) (port : Nat) :
    (∃ p, (m.startServer port).value = some p ∧
        (m.startServer port).log = [⟨.info, .server, listeningText (address p)⟩]) ∨
      ∃ f, m.serverFault? port = some f ∧ (m.startServer port).value = none ∧
        (m.startServer port).log = [⟨.warn, .server, f.warning⟩] := by
  rw [startServer]
  cases m.serverFault? port with
  | none => exact .inl ⟨_, rfl, rfl⟩
  | some f => exact .inr ⟨f, rfl, rfl, rfl⟩

lemma value_openWindow (m : Machine) (e : Environment) (s : Settings) (guarded : Bool) :
    (m.openWindow e s guarded).value =
      { guarded, server := (m.startServer s.port.toNat).value, user := (m.currentUser e).value } := by
  rw [openWindow]
  cases huser : (m.currentUser e).value <;> simp [huser]

lemma from_openWindow (m : Machine) (e : Environment) (s : Settings) (guarded : Bool) :
    (m.openWindow e s guarded).From [.runner, .identity, .server] := by
  have huser : (m.currentUser e).From [.runner, .identity, .server] :=
    (m.from_currentUser e).mono (by simp)
  have hserver : (m.startServer s.port.toNat).From [.runner, .identity, .server] := by
    intro entry hentry
    obtain ⟨p, -, hlog⟩ | ⟨f, -, -, hlog⟩ := log_startServer m s.port.toNat
    · rw [hlog] at hentry
      simp [List.mem_singleton.1 hentry]
    · rw [hlog] at hentry
      simp [List.mem_singleton.1 hentry]
  rw [openWindow]
  refine .bind (.write (by decide) _ _) fun _ => huser.bind fun user => ?_
  cases user with
  | none => exact hserver.bind fun _ => .pure _
  | some name => exact .bind (.write (by decide) _ _) fun _ => hserver.bind fun _ => .pure _

/-- What the attempt to start the server logs is in the log of the window. -/
lemma mem_log_openWindow (m : Machine) (e : Environment) (s : Settings) (guarded : Bool) :
    ∀ entry ∈ (m.startServer s.port.toNat).log, entry ∈ (m.openWindow e s guarded).log := by
  intro entry hentry
  rw [openWindow]
  cases huser : (m.currentUser e).value <;> simp [huser, hentry]

/-- What a launch comes to that may show its window. -/
structure GoesOn (m : Machine) (e : Environment) (port : Nat) (guarded : Bool)
    (ran : Logged (Machine × Course)) : Prop where
  /-- The window opens, for the user of the launch and with a host that nobody has asked yet.  Its
  server listens at its port, or at a free one if the port is zero, unless the system does not give
  the port, another program has it, or there is no thread; and then the window is open without it. -/
  opens : m.runtimeFault = none → ∃ r, ran.value.2 = .window r ∧ ran.value.2.exitCode? = none ∧
    r.guarded = guarded ∧ r.user = (m.currentUser e).value ∧ r.host = {} ∧
    r.server =
      (if m.closedPorts.lookup port = none ∧ (port = 0 ∨ port ∉ m.ports) ∧ m.threadFault = none then
        some (if port = 0 then m.freePort else port)
      else none) ∧
    (∀ p, r.server = some p → ⟨.info, .server, listeningText (address p)⟩ ∈ ran.log) ∧
    (r.server = none → ∃ f, m.serverFault? port = some f ∧ ⟨.warn, .server, f.warning⟩ ∈ ran.log)
  /-- Without a runtime the launch ends with failure, and has started no server. -/
  ends : ∀ f, m.runtimeFault = some f → ran.value.2 = .noRuntime f ∧
    ran.value.2.exitCode? = some 1 ∧ ∀ entry ∈ ran.log, entry.source ≠ .server


/-- What is said of a launch that goes on does not depend on files and locks. -/
lemma GoesOn.of_registry {r : Registry} {port : Nat} {guarded : Bool}
    {ran : Logged (Machine × Course)}
    (h : ({ m with registry := r } : Machine).GoesOn e port guarded ran) :
    m.GoesOn e port guarded ran := ⟨h.opens, h.ends⟩

lemma from_drop (r : Registry) (id : String) : (r.drop id).From [.lock] := by
  have hrelease : (r.release id).From [.lock] := by
    rw [Registry.release]
    split
    · exact .pure _
    · refine .bind ?_ fun _ => .pure _
      rw [Registry.releaseLock]
      split
      · exact .bind (.write (by decide) _ _) fun _ => .pure _
      · exact .pure _
  exact hrelease.bind fun _ => .pure _

/-- After entries of other parts, this is what a launch comes to that goes on. -/
lemma goesOn_of_goOn (m : Machine) (id : String) (e : Environment) (s : Settings) (guarded : Bool)
    {before : List Entry} (hbefore : ∀ entry ∈ before, entry.source ≠ .server) :
    m.GoesOn e s.port.toNat guarded
      ⟨(m.goOn id e s guarded).value, before ++ (m.goOn id e s guarded).log⟩ := by
  constructor
  · intro hruntime
    rw [goOn_of_runtime hruntime, value_openWindow]
    have hlogged : ∀ entry ∈ (m.startServer s.port.toNat).log,
        entry ∈ before ++ (m.openWindow e s guarded).log := fun entry hentry =>
      List.mem_append_right _ (m.mem_log_openWindow e s guarded entry hentry)
    refine ⟨_, rfl, rfl, rfl, rfl, rfl, m.value_startServer s.port.toNat, ?_, ?_⟩
    · rintro p (hp : (m.startServer s.port.toNat).value = some p)
      obtain ⟨p', hvalue, hlog⟩ | ⟨f, -, hvalue, -⟩ := m.log_startServer s.port.toNat
      · obtain rfl : p = p' := Option.some.inj (hp.symm.trans hvalue)
        exact hlogged _ (by rw [hlog]; exact List.mem_singleton_self _)
      · exact nomatch hp.symm.trans hvalue
    · rintro (hp : (m.startServer s.port.toNat).value = none)
      obtain ⟨p', hvalue, -⟩ | ⟨f, hfault, -, hlog⟩ := m.log_startServer s.port.toNat
      · exact nomatch hp.symm.trans hvalue
      · exact ⟨f, hfault, hlogged _ (by rw [hlog]; exact List.mem_singleton_self _)⟩
  · intro f hruntime
    rw [goOn_of_fault hruntime]
    refine ⟨rfl, rfl, fun entry hentry => ?_⟩
    rcases List.mem_append.1 hentry with hentry | hentry
    · exact hbefore entry hentry
    · rcases List.mem_cons.1 hentry with rfl | hentry
      · nofun
      · rw [List.mem_singleton.1 (from_drop _ _ entry hentry)]
        nofun

lemma from_goOn (m : Machine) (id : String) (e : Environment) (s : Settings) (guarded : Bool) :
    (m.goOn id e s guarded).From [.lock, .runner, .identity, .server] := by
  cases hruntime : m.runtimeFault with
  | none =>
    rw [goOn_of_runtime hruntime]
    exact (m.from_openWindow e s guarded).mono (List.subset_cons_self _ _)
  | some f =>
    rw [goOn_of_fault hruntime]
    intro entry hentry
    rcases List.mem_cons.1 hentry with rfl | hentry
    · simp
    · simp [List.mem_singleton.1 (from_drop _ _ entry hentry)]

/-- Without a lock a launch that goes on leaves the machine as it is. -/
lemma goOn_of_free (hnew : m.registry.lock? id = none) (e : Environment) (s : Settings)
    (guarded : Bool) : (m.goOn id e s guarded).value.1 = m ∧
      (m.goOn id e s guarded).From [.runner, .identity, .server] := by
  cases hruntime : m.runtimeFault with
  | none =>
    rw [goOn_of_runtime hruntime]
    exact ⟨rfl, m.from_openWindow e s guarded⟩
  | some f =>
    rw [goOn_of_fault hruntime, Registry.drop_of_free hnew]
    refine ⟨rfl, fun entry hentry => ?_⟩
    rw [List.mem_singleton.1 hentry]
    simp

/-! ### The four ends of a claim -/

/-- How the claim of a launch with the shared lock ends, under which condition, and what it does to
files and locks. -/
inductive SharedClaim (m : Machine) (id : String) (s : Settings) :
    Logged (Except LockFault Role × Registry) → Prop
  | unguarded : s.singleInstance = false → SharedClaim m id s
      ⟨(.ok .unguarded, m.registry),
        [⟨.warn, .claim, "Single-instance enforcement disabled, skipping launch lock"⟩]⟩
  | failed {cause : Fault} : s.singleInstance = true →
      m.registry.tree.openOrMake sharedLock.path = .error cause →
      ¬m.registry.OwnedElsewhere id sharedLock → SharedClaim m id s
      ⟨(.error ⟨sharedLockName, cause.message⟩, m.registry), []⟩
  | duplicate : s.singleInstance = true →
      (m.registry.tree.openOrMake sharedLock.path).isOk = true →
      m.registry.OwnedElsewhere id sharedLock → SharedClaim m id s
      ⟨(.ok .duplicate, m.registry),
        [⟨.info, .lock, "Launch lock " ++ sharedLockName ++ " is held by another process"⟩,
          ⟨.info, .claim, "Another instance is already running"⟩]⟩
  | primary {n : Nat} {t : Tree} : s.singleInstance = true →
      m.registry.tree.openOrMake sharedLock.path = .ok (n, t) → n ∉ m.registry.held →
      ¬m.registry.OwnedElsewhere id sharedLock → SharedClaim m id s
      ⟨(.ok .primary, ({ m.registry with tree := t, held := n :: m.registry.held } : Registry).add id
          { sharedLock with state := .ownedHere, handle := some n }),
        [⟨.info, .lock, "Acquired launch lock " ++ sharedLockName⟩]⟩

lemma sharedClaim (hs : m.registry.Sound) (hnew : m.registry.lock? id = none) (s : Settings) :
    SharedClaim m id s (m.claimShared id s) := by
  have hclaim : m.claimShared id s =
      (m.registry.add id sharedLock).claimLock id sharedLock s.singleInstance := by
    have hcreate : m.registry.create id sharedLockName lockFolder =
        pure (m.registry.add id sharedLock) := Registry.create_of_free hnew _ _
    rw [claimShared, hcreate, Logged.pure_bind_eq]
    rfl
  rw [hclaim]
  cases hsingle : s.singleInstance with
  | false =>
    rw [Registry.claimLock_add_off hnew rfl]
    exact .unguarded hsingle
  | true =>
    cases hopen : m.registry.tree.openOrMake sharedLock.path with
    | error cause =>
      rw [Registry.claimLock_add_error hnew (l := sharedLock) nofun rfl hopen]
      refine .failed hsingle hopen fun howned => ?_
      obtain ⟨n, -, hfound⟩ := Registry.openOrMake_of_ownedElsewhere hs howned
      exact nomatch hopen.symm.trans hfound
    | ok found =>
      obtain ⟨n, t⟩ := found
      have hheld : n ∈ m.registry.held ↔ m.registry.OwnedElsewhere id sharedLock :=
        Registry.mem_held_iff_of_free hs hnew hopen
      by_cases hn : n ∈ m.registry.held
      · have howned := hheld.1 hn
        -- the file is there, so the tree stays as it is
        obtain ⟨n', -, hfound⟩ := Registry.openOrMake_of_ownedElsewhere hs howned
        cases hopen.symm.trans hfound
        rw [Registry.claimLock_add_held hnew (l := sharedLock) nofun hopen rfl hn]
        exact .duplicate hsingle (by rw [hopen]; rfl) howned
      · rw [Registry.claimLock_add_free hnew (l := sharedLock) nofun hopen hn]
        exact .primary hsingle hopen hn fun howned => hn (hheld.2 howned)

namespace SharedClaim

variable {claimed : Logged (Except LockFault Role × Registry)} (h : SharedClaim m id s claimed)

include h

lemma unguarded_iff : claimed.value.1 = .ok .unguarded ↔ s.singleInstance = false := by
  cases h with
  | unguarded hsingle => simp [hsingle]
  | failed hsingle => simp [hsingle]
  | duplicate hsingle => simp [hsingle]
  | primary hsingle => simp [hsingle]

lemma failed_iff : (∃ f, claimed.value.1 = .error f) ↔ s.singleInstance = true ∧
    ¬(m.registry.tree.openOrMake sharedLock.path).isOk = true := by
  cases h with
  | unguarded hsingle => simp [hsingle]
  | failed hsingle hopen =>
    have hopens : ¬(m.registry.tree.openOrMake sharedLock.path).isOk = true := by
      rw [hopen]
      exact nofun
    simp [hsingle, hopens]
  | duplicate _ hopens => simp [hopens]
  | primary _ hopen =>
    have hopens : (m.registry.tree.openOrMake sharedLock.path).isOk = true := by
      rw [hopen]
      rfl
    simp [hopens]

lemma duplicate_iff : claimed.value.1 = .ok .duplicate ↔
    s.singleInstance = true ∧ m.registry.OwnedElsewhere id sharedLock := by
  cases h with
  | unguarded hsingle => simp [hsingle]
  | failed _ _ howned => simp [howned]
  | duplicate hsingle _ howned => simp [hsingle, howned]
  | primary _ _ _ howned => simp [howned]

lemma primary_iff : claimed.value.1 = .ok .primary ↔ s.singleInstance = true ∧
    (m.registry.tree.openOrMake sharedLock.path).isOk = true ∧
    ¬m.registry.OwnedElsewhere id sharedLock := by
  cases h with
  | unguarded hsingle => simp [hsingle]
  | failed _ hopen =>
    have hopens : ¬(m.registry.tree.openOrMake sharedLock.path).isOk = true := by
      rw [hopen]
      exact nofun
    simp [hopens]
  | duplicate _ _ howned => simp [howned]
  | primary hsingle hopen _ howned =>
    have hopens : (m.registry.tree.openOrMake sharedLock.path).isOk = true := by
      rw [hopen]
      rfl
    simp [hsingle, hopens, howned]

lemma of_error {f : LockFault} (hrole : claimed.value.1 = .error f) :
    (∃ cause, m.registry.tree.openOrMake sharedLock.path = .error cause ∧
      f = ⟨sharedLockName, cause.message⟩) ∧ claimed = ⟨(.error f, m.registry), []⟩ := by
  cases h with
  | failed _ hopen =>
    cases hrole
    exact ⟨⟨_, hopen, rfl⟩, rfl⟩
  | _ => cases hrole

lemma of_unguarded (hrole : claimed.value.1 = .ok .unguarded) :
    ∃ log, claimed = ⟨(.ok .unguarded, m.registry), log⟩ ∧ ∀ entry ∈ log, entry.source = .claim := by
  cases h with
  | unguarded => exact ⟨_, rfl, by simp⟩
  | _ => cases hrole

lemma of_duplicate (hrole : claimed.value.1 = .ok .duplicate) :
    ∃ log, claimed = ⟨(.ok .duplicate, m.registry), log⟩ ∧
      ∀ entry ∈ log, entry.source ∈ [.lock, .claim] := by
  cases h with
  | duplicate => exact ⟨_, rfl, by simp⟩
  | _ => cases hrole

lemma of_primary (hrole : claimed.value.1 = .ok .primary) :
    ∃ n t log, m.registry.tree.openOrMake sharedLock.path = .ok (n, t) ∧ n ∉ m.registry.held ∧
      claimed = ⟨(.ok .primary,
        ({ m.registry with tree := t, held := n :: m.registry.held } : Registry).add id
          { sharedLock with state := .ownedHere, handle := some n }), log⟩ ∧
      ∀ entry ∈ log, entry.source = .lock := by
  cases h with
  | primary _ hopen hn => exact ⟨_, _, _, hopen, hn, rfl, by simp⟩
  | _ => cases hrole

end SharedClaim

/-! ### The ways of an interactive launch -/

/-- A duplicate sends what it has to send to the running instance, and ends with its report. -/
lemma enter_duplicate (m : Machine) (id : String) (e : Environment) (s : Settings) :
    let port := s.port.toNat
    let met := duplicateOver (m.currentUser e) (address port) s (m.peer port .ownerUser)
      (m.peer port .showWindow)
    m.enter id e s (.ok .duplicate) =
      ⟨(m.sendAll port (met.value.queried ++ met.value.notified), .duplicate met.value.run.report),
        met.log ++ [⟨.info, .runner, met.value.run.report.shown⟩]⟩ := by
  intro port met
  exact congrArg (Logged.mk _) (List.append_nil _)

lemma from_enter_duplicate (m : Machine) (id : String) (e : Environment) (s : Settings) :
    (m.enter id e s (.ok .duplicate)).From [.identity, .duplicate, .client, .host, .runner] :=
  (m.from_endDuplicate e s).bind fun _ => .pure _

/-- The launch tells of its lock, and goes on. -/
lemma enter_primary (m : Machine) (id : String) (e : Environment) (s : Settings) :
    m.enter id e s (.ok .primary) =
      ⟨(m.goOn id e s true).value,
        [⟨.debug, .runner, sharedLockName ++ " state: " ++ Ownership.ownedHere.name⟩] ++
          (m.goOn id e s true).log⟩ := rfl

lemma goesOn_of_primary (m : Machine) (id : String) (e : Environment) (s : Settings)
    {before : List Entry} (hbefore : ∀ entry ∈ before, entry.source ≠ .server) :
    m.GoesOn e s.port.toNat true
      ⟨(m.enter id e s (.ok .primary)).value, before ++ (m.enter id e s (.ok .primary)).log⟩ := by
  rw [enter_primary, ← List.append_assoc]
  refine goesOn_of_goOn m id e s true fun entry hentry => ?_
  rcases List.mem_append.1 hentry with hentry | hentry
  · exact hbefore entry hentry
  · rw [List.mem_singleton.1 hentry]
    nofun

/-- With a new lock that owns its file a launch goes on, and keeps the lock unless it ends for want of a
runtime; then nothing is left of the lock. -/
lemma goOn_of_owned {r : Registry} {l : Lock} {n : Nat} (hnew : r.lock? id = none)
    (hheld : n ∉ r.held) (hl : l.handle = some n) (e : Environment) (s : Settings) :
    let m' : Machine :=
      { m with registry := ({ r with held := n :: r.held } : Registry).add id l }
    (m.runtimeFault = none → (m'.goOn id e s true).value.1 = m') ∧
      (m.runtimeFault ≠ none → (m'.goOn id e s true).value.1 = { m with registry := r }) := by
  intro m'
  constructor
  · intro hruntime
    have hruntime' : m'.runtimeFault = none := hruntime
    rw [goOn_of_runtime hruntime']
  · intro hruntime
    obtain ⟨f, hfault⟩ := Option.ne_none_iff_exists'.1 hruntime
    have hfault' : m'.runtimeFault = some f := hfault
    have hdrop : m'.registry.drop id = _ := Registry.drop_add_open hnew hl hheld
    rw [goOn_of_fault hfault', hdrop]

/-- A launch whose claim has ended goes on as its role demands. -/
lemma launching_of_claim {args : List String} (hargs : e.argTexts? = some args)
    (hmode : (decideMode e args).value = .interactive) {role : Except LockFault Role}
    {r : Registry} {log : List Entry}
    (hclaim : ({ m with registry := m.atClaim e } : Machine).claimShared id
      (Preparation.of m.registry.tree e).settings = ⟨(role, r), log⟩) :
    m.launching id e =
      ⟨(({ m with registry := r } : Machine).enter id e
          (Preparation.of m.registry.tree e).settings role).value,
        (m.opening e args ++ log) ++ (({ m with registry := r } : Machine).enter id e
          (Preparation.of m.registry.tree e).settings role).log⟩ := by
  rw [launching_interactive hargs m id hmode]
  simp only [hclaim, List.append_assoc]

/-- The opening and the claim come before the entries of the way that is taken. -/
lemma from_launching {args : List String} {parts : List Source} {log : List Entry}
    {ran : Logged (Machine × Course)} (hlog : ∀ entry ∈ log, entry.source ∈ parts)
    (hran : ran.From parts) (hsub : [.runner, .mode] ⊆ parts) :
    (⟨ran.value, (m.opening e args ++ log) ++ ran.log⟩ : Logged (Machine × Course)).From parts := by
  intro entry hentry
  rcases List.mem_append.1 hentry with hentry | hentry
  · rcases List.mem_append.1 hentry with hentry | hentry
    · exact hsub (m.from_opening e args entry hentry)
    · exact hlog entry hentry
  · exact hran entry hentry

/-- No server is at work before a launch goes its way. -/
lemma source_ne_server_of_mem {args : List String} {log : List Entry}
    (hlog : ∀ entry ∈ log, entry.source ≠ .server) :
    ∀ entry ∈ m.opening e args ++ log, entry.source ≠ .server := by
  intro entry hentry hserver
  rcases List.mem_append.1 hentry with hentry | hentry
  · have hopening := m.from_opening e args entry hentry
    rw [hserver] at hopening
    exact absurd hopening (by decide)
  · exact hlog entry hentry hserver

/-- **Enforcement is fail-safe.**  The launch is new to the machine, whose files and locks agree, as
they do at every time.

If its log filter cannot be read, the launch ends at once, and that is all that becomes of the machine.
Otherwise it comes last on what it makes of the machine, with its course and its log.  A service
leaves everything but its log file alone.

A launch that is to show its window does without the launch lock exactly if enforcement is off, and
settings that cannot be loaded do not switch it off.  Otherwise its claim fails exactly if the lock
file cannot be opened, finds another instance exactly if another launch owns the lock, and has the lock
in all other cases.

* If the claim fails, the launch ends with failure.  Everything on the machine but its log file is as
  it was: no server is started and nobody is asked.
* If there is another instance, the launch acts as a duplicate over the channel at its port, sends
  what this sends and nothing else, and ends with success.  It starts no server.
* With the lock, or without enforcement, the launch goes on: it opens its window and tries to start the
  server, whose failure changes nothing.  With the lock it keeps it, unless it ends for want of a
  runtime. -/
theorem start_enforces (m : Machine) (id : String) (e : Environment) {args : List String}
    (hargs : e.argTexts? = some args) (hs : m.registry.Sound) (hnew : m.IsNew id) :
    let s := (Preparation.of m.registry.tree e).settings
    let before : Machine := { m with registry := m.atClaim e }
    let launching := m.launching id e
    let reached := launching.value.1
    let course := launching.value.2
    let mode := (Mode.detect ⟨none, args, e.text? serviceVariable⟩).value.1
    let off := EnforcementOff m.registry.tree e
    let opens := (before.registry.tree.openOrMake sharedLock.path).isOk = true
    let owned := before.registry.OwnedElsewhere id sharedLock
    let port := s.port.toNat
    let role := (before.claimShared id s).value.1
    let met := duplicateOver (m.currentUser e) (address port) s (m.peer port .ownerUser)
      (m.peer port .showWindow)
    (Filter.ofValue? (e.text? filterVariable) = none →
      m.start id e = { m with
        launches := m.launches ++ [{ id, filter := [], toFile := false, course := .crashed }] }) ∧
    (∀ filter, Filter.ofValue? (e.text? filterVariable) = some filter →
      let l : Launch :=
        { id, filter, toFile := (openLog m.registry.tree e s.logToFile).2.isSome,
          course, log := launching.log.filter filter.shows }
      m.start id e = { reached with
        launches := reached.launches ++ [l]
        journal := if l.toFile then reached.journal ++ l.log else reached.journal }) ∧
    (mode = .service →
      reached = before ∧ course = m.runtimeFault.elim .service .noRuntime ∧
      launching.From [.runner, .mode]) ∧
    (mode = .interactive →
      (role = .ok .unguarded ↔ off) ∧
      ((∃ f, Preparation.load m.registry.tree e = .error f) → off → e.SaysOff) ∧
      ((∃ f, role = .error f) ↔ ¬off ∧ ¬opens) ∧
      (role = .ok .duplicate ↔ ¬off ∧ owned) ∧
      (role = .ok .primary ↔ ¬off ∧ opens ∧ ¬owned) ∧
      (∀ f, role = .error f →
        (∃ cause, before.registry.tree.openOrMake sharedLock.path = .error cause ∧
          f = ⟨sharedLockName, cause.message⟩) ∧
        course = .refused f ∧ course.exitCode? = some 1 ∧ reached = before ∧
        launching.From [.runner, .mode]) ∧
      (role = .ok .duplicate →
        course = .duplicate met.value.run.report ∧ course.exitCode? = some 0 ∧
        reached = before.sendAll port (met.value.queried ++ met.value.notified) ∧
        reached.registry = before.registry ∧
        (∃ log, launching.log =
          log ++ (met.log ++ [⟨.info, .runner, met.value.run.report.shown⟩])) ∧
        launching.From [.lock, .claim, .identity, .duplicate, .client, .host, .runner, .mode]) ∧
      (role = .ok .unguarded →
        m.GoesOn e port false launching ∧ reached = before ∧
        launching.From [.claim, .runner, .identity, .server, .mode]) ∧
      (role = .ok .primary →
        m.GoesOn e port true launching ∧
        launching.From [.lock, .runner, .identity, .server, .mode] ∧
        (m.runtimeFault = none →
          reached = { before with registry := reached.registry } ∧
          ∃ n, reached.registry.lock? id =
              some { sharedLock with state := .ownedHere, handle := some n } ∧
            n ∈ reached.registry.held ∧
            reached.registry.tree.fileAt? sharedLock.path = some n) ∧
        (m.runtimeFault ≠ none →
          reached = { before with
            registry := { before.registry with tree := reached.registry.tree } }))) := by
  intro s before launching reached course mode off opens owned port role met
  have hmode' : (decideMode e args).value = mode := value_decideMode e args
  refine ⟨fun htorn => ?_, fun filter hfilter => start_of_filter hfilter hnew, fun hmode => ?_,
    fun hmode => ?_⟩
  · rw [start, htorn]
  · have hlaunch : launching = _ := launching_service hargs m id (hmode'.trans hmode)
    refine ⟨congrArg (·.value.1) hlaunch, ?_, ?_⟩
    · rw [show course = m.runService.value from congrArg (·.value.2) hlaunch, runService]
      cases m.runtimeFault <;> rfl
    · rw [hlaunch]
      intro entry hentry
      rcases List.mem_append.1 hentry with hentry | hentry
      · exact m.from_opening e args entry hentry
      · rw [runService] at hentry
        cases hruntime : m.runtimeFault <;> rw [hruntime] at hentry <;>
          simp [List.mem_singleton.1 hentry]
  · have hnewLock : before.registry.lock? id = none := hnew.lock
    have hclaim : SharedClaim before id s (before.claimShared id s) :=
      sharedClaim (sound_atClaim hs e) hnewLock s
    have hoff : off ↔ s.singleInstance = false := enforcementOff_iff m.registry.tree e
    have hon : ¬off ↔ s.singleInstance = true := by rw [hoff, Bool.not_eq_false]
    have hlaunch {role r log} (hclaimed : before.claimShared id s = ⟨(role, r), log⟩) :
        launching = _ := launching_of_claim hargs (hmode'.trans hmode) hclaimed
    rw [hon]
    refine ⟨hclaim.unguarded_iff.trans hoff.symm, ?_, hclaim.failed_iff, hclaim.duplicate_iff,
      hclaim.primary_iff, fun f hf => ?_, fun hrole => ?_, fun hrole => ?_, fun hrole => ?_⟩
    · rintro ⟨f, hload⟩ (hword | ⟨-, s, hloaded, -⟩)
      · exact hword
      · cases hload.symm.trans hloaded
    · obtain ⟨hcause, hclaimed⟩ := hclaim.of_error hf
      have hran := hlaunch hclaimed
      have hcourse : course = .refused f := congrArg (·.value.2) hran
      refine ⟨hcause, hcourse, by rw [hcourse]; rfl, congrArg (·.value.1) hran, ?_⟩
      rw [hran]
      refine from_launching (fun _ h => absurd h List.not_mem_nil) ?_ (List.Subset.refl _)
      exact .bind (.write (by decide) _ _) fun _ => .pure _
    · obtain ⟨log, hclaimed, hlog⟩ := hclaim.of_duplicate hrole
      have hran := hlaunch hclaimed
      have hfrom : launching.From
          [.lock, .claim, .identity, .duplicate, .client, .host, .runner, .mode] := by
        rw [hran]
        refine from_launching (fun entry hentry => ?_)
          ((from_enter_duplicate _ id e s).mono (by simp)) (by simp)
        exact List.mem_of_mem_take (i := 2) (hlog entry hentry)
      rw [enter_duplicate] at hran
      have hcourse : course = .duplicate met.value.run.report := congrArg (·.value.2) hran
      have hreached : reached = before.sendAll port (met.value.queried ++ met.value.notified) :=
        congrArg (·.value.1) hran
      refine ⟨hcourse, by rw [hcourse]; rfl, hreached, ?_, ⟨_, congrArg Logged.log hran⟩, hfrom⟩
      rw [hreached]
      exact (sendAll_keeps _ _ _).1
    · obtain ⟨log, hclaimed, hlog⟩ := hclaim.of_unguarded hrole
      have hran := hlaunch hclaimed
      obtain ⟨hstays, hgoes⟩ := goOn_of_free hnewLock e s false
      refine ⟨?_, (congrArg (·.value.1) hran).trans hstays, ?_⟩
      · rw [hran]
        refine (goesOn_of_goOn before id e s false
          (source_ne_server_of_mem fun entry hentry => ?_)).of_registry
        rw [hlog entry hentry]
        decide
      · rw [hran]
        refine from_launching (fun entry hentry => ?_) (hgoes.mono (by simp)) (by simp)
        rw [hlog entry hentry]
        simp
    · obtain ⟨n, t, log, hopen, hn, hclaimed, hlog⟩ := hclaim.of_primary hrole
      have hran := hlaunch hclaimed
      have hfree : ({ before.registry with tree := t } : Registry).lock? id = none := hnewLock
      obtain ⟨hkeeps, hgone⟩ := goOn_of_owned (m := before)
        (l := { sharedLock with state := .ownedHere, handle := some n }) hfree hn rfl e s
      have hreached := congrArg (·.value.1) hran
      refine ⟨?_, ?_, fun hruntime => ?_, fun hruntime => ?_⟩
      · rw [hran]
        refine (goesOn_of_primary _ id e s (source_ne_server_of_mem fun entry hentry => ?_)).of_registry
        rw [hlog entry hentry]
        decide
      · rw [hran]
        refine from_launching (fun entry hentry => ?_) ?_ (by simp)
        · rw [hlog entry hentry]
          simp
        · exact .bind (.write (by simp) _ _) fun _ => (from_goOn _ id e s true).mono (by simp)
      · have hkept : reached = _ := hreached.trans (hkeeps hruntime)
        rw [hkept]
        exact ⟨rfl, n, Registry.lock?_add hfree _, List.mem_cons_self,
          Tree.fileAt?_openOrMake hopen⟩
      · have hleft : reached = _ := hreached.trans (hgone hruntime)
        rw [hleft]

/-- A settings file that is no text does not let a launch do without the lock, which it then has. -/
theorem start_enforces_on_unreadable_settings :
    let e : Environment := { vars := [("XDG_CONFIG_HOME", [0x2f, 0x63])] }
    let made : List LockEvent := [.makeFolders e.settingsFolder, .makeFolders lockFolder,
      .write (Settings.pathIn e.settingsFolder) [0xff]]
    let r := ({} : Registry).after made
    let m : Machine := { registry := r, link := .up, account := none }
    Preparation.load r.tree e = .error (.store (.files .notText)) ∧
      ∃ w, (m.launching "first" e).value.2 = .window w ∧ w.guarded = true ∧
        w.server = some 45931 := by
  intro e made r
  have hargs : e.argTexts? = some [] := rfl
  have hmode : (Mode.detect ⟨none, [], e.text? serviceVariable⟩).value.1 = .interactive := by
    decide +kernel
  have hunset : e.vars.lookup overrideVariable = none := by decide +kernel
  have hkept : ({} : Registry).KeepsOwned made := ⟨trivial, trivial, trivial, trivial⟩
  have hs : r.Sound := Registry.Sound.start.after hkept
  have hnew : r.lock? "first" = none := by decide +kernel
  have hload : Preparation.load r.tree e = .error (.store (.files .notText)) := by decide +kernel
  have hport : (Preparation.of r.tree e).settings.port.toNat = 45931 := by decide +kernel
  have hlocks : r.locks = [] := by decide +kernel
  have hopens : ((openLog r.tree e (Preparation.of r.tree e).settings.logToFile).1.openOrMake
      sharedLock.path).isOk = true := by decide +kernel
  clear_value r e
  intro m
  obtain ⟨-, -, -, hinteractive⟩ := start_enforces m "first" e hargs hs ⟨List.not_mem_nil, hnew⟩
  obtain ⟨-, hsays, -, -, hprimary, -, -, -, hgoes⟩ := hinteractive hmode
  have hon : ¬EnforcementOff r.tree e := by
    intro hoff
    obtain ⟨bytes, cs, hlookup, -⟩ := hsays ⟨_, hload⟩ hoff
    exact nomatch hunset.symm.trans hlookup
  have hnone : ¬(m.atClaim e).OwnedElsewhere "first" sharedLock := by
    rintro ⟨i, l, -, hl, -⟩
    have hlookup : r.locks.lookup i = some l := hl
    rw [hlocks] at hlookup
    cases hlookup
  obtain ⟨hwindow, -⟩ := hgoes (hprimary.2 ⟨hon, hopens, hnone⟩)
  obtain ⟨w, hcourse, -, hguarded, -, -, hserver, -⟩ := hwindow.opens rfl
  have hport' : (Preparation.of m.registry.tree e).settings.port.toNat = 45931 := hport
  rw [if_pos ⟨rfl, .inr List.not_mem_nil, rfl⟩, hport', if_neg (by decide)] at hserver
  exact ⟨hload, w, hcourse, hguarded, hserver⟩

end Machine

end LaunchGuard
