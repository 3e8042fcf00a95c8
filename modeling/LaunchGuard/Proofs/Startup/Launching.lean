/-
# What the start of a launch comes to

A launch is started in one go, up to where it waits or has ended.  Here the going is told apart from
what the machine keeps of it: the launch comes last on the machine, with the course that it took and
what its filter shows of its log.

Whatever way it goes, the locks, their open files and the locked files still agree afterwards.
-/
import LaunchGuard.Proofs.Lock.Claiming
import LaunchGuard.Proofs.Log.Sources

namespace LaunchGuard

/-- The launch lock that all instances on a machine share, when a launch has just created it. -/
def sharedLock : Lock := { name := sharedLockName, folder := Machine.lockFolder }

namespace Machine

variable {m : Machine} {id : String} {e : Environment} {s : Settings}

/-- Neither a launch nor a lock of the machine has the identifier. -/
structure IsNew (m : Machine) (id : String) : Prop where
  launch : id ∉ m.launches.map Launch.id
  lock : m.registry.lock? id = none

/-- The files and locks when a launch comes to its claim: its log file has been opened by then. -/
def atClaim (m : Machine) (e : Environment) : Registry :=
  { m.registry with
    tree := (openLog m.registry.tree e (Preparation.of m.registry.tree e).settings.logToFile).1 }

/-- The start of a launch up to where it waits or has ended, with all that it logs. -/
def launching (m : Machine) (id : String) (e : Environment) : Logged (Machine × Course) :=
  let p := Preparation.of m.registry.tree e
  run { m with registry := m.atClaim e } id e
    (openLog m.registry.tree e p.settings.logToFile).2 p

/-- What a launch logs before it goes the way of its mode. -/
def opening (m : Machine) (e : Environment) (args : List String) : List Entry :=
  let p := Preparation.of m.registry.tree e
  (announce (m.atClaim e).tree e (openLog m.registry.tree e p.settings.logToFile).2 p).log ++
    (decideMode e args).log

lemma from_opening (m : Machine) (e : Environment) (args : List String) :
    ∀ entry ∈ m.opening e args, entry.source ∈ [.runner, .mode] := by
  intro entry hentry
  rcases List.mem_append.1 hentry with hentry | hentry
  · exact (from_announce _ _ _ _).mono (by simp) entry hentry
  · exact from_decideMode e args entry hentry

/-! ### The modes -/

lemma value_decideMode (e : Environment) (args : List String) :
    (decideMode e args).value = (Mode.detect ⟨none, args, e.text? serviceVariable⟩).value.1 := by
  simp only [decideMode, Logged.bind_value, Logged.pure_value]

lemma launching_crashed (m : Machine) (id : String) (hargs : e.argTexts? = none) :
    (m.launching id e).value = ({ m with registry := m.atClaim e }, .crashed) := by
  rw [launching, run, Logged.bind_value, hargs]
  rfl

section Modes

variable {args : List String} (hargs : e.argTexts? = some args)

include hargs

lemma launching_service (m : Machine) (id : String) (hmode : (decideMode e args).value = .service) :
    m.launching id e =
      ⟨({ m with registry := m.atClaim e }, m.runService.value),
        m.opening e args ++ m.runService.log⟩ := by
  simp only [launching, run, hargs, Logged.bind_eq_mk, hmode]
  refine congrArg (Logged.mk _) ?_
  rw [opening, List.append_assoc]
  exact congrArg (fun log => _ ++ (_ ++ log)) (List.append_nil _)

/-- An interactive launch makes its claim and goes on as it ends. -/
lemma launching_interactive (m : Machine) (id : String)
    (hmode : (decideMode e args).value = .interactive) :
    m.launching id e =
      let s := (Preparation.of m.registry.tree e).settings
      let claimed := ({ m with registry := m.atClaim e } : Machine).claimShared id s
      let ran := ({ m with registry := claimed.value.2 } : Machine).enter id e s claimed.value.1
      ⟨ran.value, m.opening e args ++ (claimed.log ++ ran.log)⟩ := by
  simp only [launching, run, runInteractive, hargs, Logged.bind_eq_mk, hmode]
  exact congrArg (Logged.mk _) (List.append_assoc _ _ _).symm

end Modes

/-! ### What becomes of the other launches -/

lemma ids_note (m : Machine) (id : String) (entries : List Entry) :
    (m.note id entries).launches.map Launch.id = m.launches.map Launch.id := by
  rw [note]
  split
  · rfl
  · rw [List.map_map]
    refine List.map_congr_left fun l _ => ?_
    rw [Function.comp_apply]
    split <;> rfl

lemma ids_update (m : Machine) (id : String) {f : Launch → Launch} (hf : ∀ l, (f l).id = l.id) :
    (m.update id f).launches.map Launch.id = m.launches.map Launch.id := by
  rw [update, List.map_map]
  refine List.map_congr_left fun l _ => ?_
  rw [Function.comp_apply]
  split
  · exact hf l
  · rfl

lemma registry_note (m : Machine) (id : String) (entries : List Entry) :
    (m.note id entries).registry = m.registry := by
  rw [note]
  split <;> rfl

/-- A request reaches launches that are there, and no lock. -/
lemma send_keeps (m : Machine) (port : Nat) (payload : List UInt8) :
    (m.send port payload).2.registry = m.registry ∧
      (m.send port payload).2.launches.map Launch.id = m.launches.map Launch.id := by
  rw [send]
  split
  · exact ⟨rfl, rfl⟩
  · split
    · exact ⟨rfl, rfl⟩
    · exact ⟨registry_note _ _ _, (ids_note _ _ _).trans (ids_update _ _ fun _ => rfl)⟩

lemma sendAll_keeps (m : Machine) (port : Nat) (payloads : List (List UInt8)) :
    (m.sendAll port payloads).registry = m.registry ∧
      (m.sendAll port payloads).launches.map Launch.id = m.launches.map Launch.id := by
  rw [sendAll]
  induction payloads generalizing m with
  | nil => exact ⟨rfl, rfl⟩
  | cons payload payloads ih =>
    obtain ⟨hregistry, hids⟩ := send_keeps m port payload
    exact ⟨(ih _).1.trans hregistry, (ih _).2.trans hids⟩

/-- Without a runtime a launch ends, and its lock goes away. -/
lemma goOn_of_fault {f : Fault} (h : m.runtimeFault = some f) (id : String) (e : Environment)
    (s : Settings) (guarded : Bool) :
    m.goOn id e s guarded =
      ⟨({ m with registry := (m.registry.drop id).value.2 }, .noRuntime f),
        ⟨.error, .runner, "Failed to create runtime: " ++ f.message⟩ :: (m.registry.drop id).log⟩ := by
  rw [goOn, h]
  exact congrArg (fun log => Logged.mk _ (_ :: log)) (List.append_nil _)

lemma goOn_of_runtime (h : m.runtimeFault = none) (id : String) (e : Environment) (s : Settings)
    (guarded : Bool) :
    m.goOn id e s guarded =
      ⟨(m, .window (m.openWindow e s guarded).value), (m.openWindow e s guarded).log⟩ := by
  rw [goOn, h]
  exact congrArg (Logged.mk _) (List.append_nil _)

lemma goOn_keeps (m : Machine) (id : String) (e : Environment) (s : Settings) (guarded : Bool) :
    Registry.Moves id m.registry (m.goOn id e s guarded).value.1.registry ∧
      (m.goOn id e s guarded).value.1.launches = m.launches := by
  cases h : m.runtimeFault with
  | none =>
    rw [goOn_of_runtime h]
    exact ⟨.refl, rfl⟩
  | some f =>
    rw [goOn_of_fault h]
    exact ⟨Registry.drop_moves _ _, rfl⟩

/-- After its claim a launch moves its own lock only, and the launches stay those that they are. -/
lemma enter_keeps (m : Machine) (id : String) (e : Environment) (s : Settings)
    (role : Except LockFault Role) :
    Registry.Moves id m.registry (m.enter id e s role).value.1.registry ∧
      (m.enter id e s role).value.1.launches.map Launch.id = m.launches.map Launch.id := by
  rcases role with f | _ | _ | _
  · exact ⟨.refl, rfl⟩
  · obtain ⟨hmoves, hlaunches⟩ := goOn_keeps m id e s true
    exact ⟨hmoves, congrArg (List.map Launch.id) hlaunches⟩
  · obtain ⟨hregistry, hids⟩ : (m.endDuplicate e s).value.1.registry = m.registry ∧
        (m.endDuplicate e s).value.1.launches.map Launch.id = m.launches.map Launch.id :=
      sendAll_keeps m _ _
    refine ⟨?_, hids⟩
    show Registry.Moves id m.registry (m.endDuplicate e s).value.1.registry
    rw [hregistry]
    exact .refl
  · obtain ⟨hmoves, hlaunches⟩ := goOn_keeps m id e s false
    exact ⟨hmoves, congrArg (List.map Launch.id) hlaunches⟩

/-- The claim moves the lock of the launch only. -/
lemma claimShared_moves (m : Machine) (id : String) (s : Settings) :
    Registry.Moves id m.registry (m.claimShared id s).value.2 := by
  have hcreate := Registry.create_moves m.registry id sharedLockName lockFolder
  have hlock : (m.registry.create id sharedLockName lockFolder).value.lock? id =
      some sharedLock := Registry.lock?_create m.registry id sharedLockName lockFolder
  exact hcreate.trans ((Registry.claimLock_ends _ id sharedLock s.singleInstance).moves hlock)

/-- Up to where it waits or has ended, a launch moves its own lock only, and no launch comes or
goes. -/
lemma launching_keeps (m : Machine) (id : String) (e : Environment) :
    Registry.Moves id (m.atClaim e) (m.launching id e).value.1.registry ∧
      (m.launching id e).value.1.launches.map Launch.id = m.launches.map Launch.id := by
  cases hargs : e.argTexts? with
  | none =>
    rw [launching_crashed m id hargs]
    exact ⟨.refl, rfl⟩
  | some args =>
    cases hmode : (decideMode e args).value with
    | service =>
      rw [launching_service hargs m id hmode]
      exact ⟨.refl, rfl⟩
    | interactive =>
      simp only [launching_interactive hargs m id hmode]
      let s := (Preparation.of m.registry.tree e).settings
      let before : Machine := { m with registry := m.atClaim e }
      let claimed := before.claimShared id s
      obtain ⟨hmoves, hids⟩ :=
        enter_keeps { m with registry := claimed.value.2 } id e s claimed.value.1
      have hclaim : Registry.Moves id (m.atClaim e) claimed.value.2 := claimShared_moves before id s
      exact ⟨hclaim.trans hmoves, hids⟩

/-! ### What the machine keeps of a launch -/

/-- What is noted of a launch that comes last, and is new, is added to its log. -/
lemma note_concat (m : Machine) (l : Launch) (hnew : l.id ∉ m.launches.map Launch.id)
    (entries : List Entry) :
    ({ m with launches := m.launches ++ [l] } : Machine).note l.id entries =
      { m with
        launches := m.launches ++ [{ l with log := l.log ++ entries.filter l.filter.shows }]
        journal := if l.toFile then m.journal ++ entries.filter l.filter.shows else m.journal } := by
  have hother : ∀ l' ∈ m.launches, l'.id ≠ l.id :=
    fun l' hl' heq => hnew (List.mem_map.2 ⟨l', hl', heq⟩)
  have hfound : (m.launches ++ [l]).find? (fun l' => l'.id = l.id) = some l := by
    rw [List.find?_append, List.find?_eq_none.2 fun l' hl' => by simpa using hother l' hl',
      Option.none_or]
    simp
  rw [note]
  simp only [hfound, List.map_append, List.map_singleton, if_true]
  rw [List.map_congr_left fun l' hl' => if_neg (hother l' hl'), List.map_id']

/-- Starting adds the launch to what it has made of the machine, with its course and with what its
filter shows of its log. -/
lemma start_of_filter {filter : Filter}
    (hfilter : Filter.ofValue? (e.text? filterVariable) = some filter) (hnew : m.IsNew id) :
    let launching := m.launching id e
    let reached := launching.value.1
    let wanted := (Preparation.of m.registry.tree e).settings.logToFile
    let l : Launch :=
      { id, filter, toFile := (openLog m.registry.tree e wanted).2.isSome,
        course := launching.value.2, log := launching.log.filter filter.shows }
    m.start id e =
      { reached with
        launches := reached.launches ++ [l]
        journal := if l.toFile then reached.journal ++ l.log else reached.journal } := by
  intro launching reached wanted l
  have hid : id ∉ reached.launches.map Launch.id := by
    rw [(launching_keeps m id e).2]
    exact hnew.launch
  have hstart : m.start id e = ({ reached with
      launches := reached.launches ++ [{ l with log := [] }] } : Machine).note id launching.log := by
    simp only [start, hfilter]
    rfl
  rw [hstart]
  exact note_concat reached { l with log := [] } hid launching.log

/-- Starting leaves the files and locks as the launch does. -/
lemma registry_start_of_filter {filter : Filter}
    (hfilter : Filter.ofValue? (e.text? filterVariable) = some filter) (m : Machine) (id : String) :
    (m.start id e).registry = (m.launching id e).value.1.registry := by
  simp only [start, hfilter]
  exact registry_note _ _ _

/-! ### Files and locks still agree -/

/-- Opening the log file makes folders and one file at most. -/
lemma keeps_openLog (t : Tree) (e : Environment) (wanted : Bool) {files : Nat → Prop} :
    t.Keeps files (openLog t e wanted).1 := by
  rw [openLog]
  split
  · exact .refl t
  · next folder _ =>
    have hfolders : t.Keeps files (t.ensureFolders folder).1 :=
      Tree.keeps_ensureChain t (folder :: folder.ancestors)
    rcases hmade : t.ensureFolders folder with ⟨t', f | ⟨⟩⟩
    · rw [hmade] at hfolders
      exact hfolders
    · rw [hmade] at hfolders
      dsimp only
      cases hopen : t'.openOrMake (folder.join logFileName) with
      | error f => exact hfolders
      | ok found => exact hfolders.trans (Tree.keeps_openOrMake hopen)

lemma sound_atClaim (hs : m.registry.Sound) (e : Environment) : (m.atClaim e).Sound :=
  hs.keeps (keeps_openLog _ _ _)

lemma sound_start (hs : m.registry.Sound) (id : String) (e : Environment) :
    (m.start id e).registry.Sound := by
  cases hfilter : Filter.ofValue? (e.text? filterVariable) with
  | none =>
    rw [start, hfilter]
    exact hs
  | some filter =>
    rw [registry_start_of_filter hfilter]
    exact (sound_atClaim hs e).moves (launching_keeps m id e).1

lemma sound_interrupt (hs : m.registry.Sound) (id : String) : (m.interrupt id).registry.Sound := by
  have hdrop : (m.registry.drop id).value.2.Sound := hs.moves (Registry.drop_moves _ _)
  have hclose : ∀ r, (m.closeWindow id r).value.registry = (m.registry.drop id).value.2 := by
    intro r
    rw [closeWindow]
    cases r.server <;> rfl
  rw [interrupt]
  cases m.launch? id with
  | none => exact hs
  | some l =>
    dsimp only
    split
    · exact hs
    · split
      · rw [registry_note, finish, update, hclose]
        exact hdrop
      · rw [registry_note]
        exact hs

/-- What may happen to the launches of a machine. -/
inductive Happening where
  | start (id : String) (e : Environment)
  | send (port : Nat) (payload : List UInt8)
  | interrupt (id : String)
deriving Repr

/-- The machine after something has happened. -/
def happen (m : Machine) : Happening → Machine
  | .start id e => m.start id e
  | .send port payload => (m.send port payload).2
  | .interrupt id => m.interrupt id

/-- The machine after all that has happened. -/
def after (m : Machine) (hs : List Happening) : Machine := hs.foldl happen m

lemma sound_happen (hs : m.registry.Sound) (h : Happening) : (m.happen h).registry.Sound := by
  cases h with
  | start id e => exact sound_start hs id e
  | send port payload =>
    rw [happen, (send_keeps m port payload).1]
    exact hs
  | interrupt id => exact sound_interrupt hs id

/-- Files and locks agree at every time. -/
theorem sound_after (hs : m.registry.Sound) (happenings : List Happening) :
    (m.after happenings).registry.Sound := by
  induction happenings generalizing m with
  | nil => exact hs
  | cons h happenings ih => exact ih (sound_happen hs h)

end Machine

end LaunchGuard
