/-
# Attempts that fail

A lock that does not own its file can fail to acquire it only because something stands in the way of
the file.  It is told what, under its own name, and nothing else happens.  So an attempt that fails
may be left out of a run: whatever is done afterwards comes to the same.
-/
import LaunchGuard.Proofs.Files.Obstacles
import LaunchGuard.Proofs.Files.InFolder
import LaunchGuard.Proofs.Lock.Balance

namespace LaunchGuard

/-- The path of a lock file asks for no folder. -/
lemma Lock.endsInSlash_path (l : Lock) : l.path.endsInSlash = false := by
  have hlast : (Text.Utf8.bytesOf (fileName l.name)).getLast? = some 0x6b := by
    rw [fileName, Text.Utf8.bytesOf, String.toList_ofList, Text.Utf8.encode_append,
      List.getLast?_append]
    rfl
  exact Path.endsInSlash_join l.folder hlast (by decide)

/-- What comes of an event: the answer, if it is a step, what is logged, and the registry after it. -/
structure Happening where
  answer : Option LockAnswer
  log : List Entry
  after : Registry

namespace Registry

variable {r : Registry} {id : String} {l : Lock} {e : LockFault}

/-- The answer to an event, if it is a step. -/
def answerTo (r : Registry) : LockEvent → Option LockAnswer
  | .step s => some (r.perform s).value.1
  | _ => none

/-- What comes of each of some events. -/
def history (r : Registry) : List LockEvent → List Happening
  | [] => []
  | e :: es => ⟨r.answerTo e, r.entriesOf e, r.happen e⟩ :: (r.happen e).history es

lemma history_append (r : Registry) (es es' : List LockEvent) :
    r.history (es ++ es') = r.history es ++ (r.after es).history es' := by
  induction es generalizing r with
  | nil => rfl
  | cons e es ih =>
    rw [List.cons_append, history, history, ih, List.cons_append]
    rfl

/-! ### How an attempt fails -/

/-- A lock fails to acquire its file exactly if it does not own it and there is an obstacle. -/
lemma acquireLock_eq_error_iff : (r.acquireLock id l).value.1 = .error e ↔
    l.state ≠ .ownedHere ∧ ∃ f, r.tree.Obstacle l.path f ∧ e = ⟨l.name, f.message⟩ := by
  constructor
  · intro h
    have hends := acquireLock_ends r id l
    rw [h] at hends
    generalize (r.acquireLock id l).value.2 = r' at hends
    cases hends with
    | failed hown hopen =>
      exact ⟨hown, _, (Tree.openOrMake_eq_error_iff l.endsInSlash_path).1 hopen, rfl⟩
  · rintro ⟨hown, f, hobstacle, rfl⟩
    rw [acquireLock_of_error hown hobstacle.openOrMake]
    rfl

lemma acquireLock_of_failed (h : (r.acquireLock id l).value.1 = .error e) :
    r.acquireLock id l = ⟨(.error e, r), []⟩ := by
  obtain ⟨hown, f, hobstacle, rfl⟩ := acquireLock_eq_error_iff.1 h
  exact acquireLock_of_error hown hobstacle.openOrMake

lemma answer_acquire (h : r.lock? id = some l) :
    (r.perform (.acquire id)).value.1 = .acquisition (r.acquireLock id l).value.1 := by
  rw [perform, acquire, h]
  rfl

/-- An attempt that fails is answered, and nothing else happens. -/
lemma perform_acquire_of_failed (h : r.lock? id = some l)
    (hfailed : (r.acquireLock id l).value.1 = .error e) :
    r.perform (.acquire id) = ⟨(.acquisition (.error e), r), []⟩ := by
  rw [perform, acquire, h]
  simp only [acquireLock_of_failed hfailed]
  rfl

/-- **A failed attempt leaves no trace.**  After any run of lock steps, with the files changing in any
way, an attempt of a live lock to acquire its file fails exactly if the lock does not own it and there
is an obstacle: the system does not take the path, a folder on the way is missing or a file, a name is
too long, or a folder is where the file should be.  The lock is told which, under its name as it was
given.  Then its state is that of a lock without a file, which it has not open, and stays so; nothing
is logged; and no lock, no locked file and no other file is changed.  Whatever comes after it, be it to
this lock, to others or to the files, comes to the same as if the attempt had been left out: the same
answers, the same entries and the same registry after each event. -/
theorem failed_attempt_leaves_no_trace (es : List LockEvent) (id : String) (l : Lock)
    (h : (({} : Registry).after es).lock? id = some l) :
    let r := ({} : Registry).after es
    let failed (e : LockFault) := (r.perform (.acquire id)).value.1 = .acquisition (.error e)
    (∀ e, failed e ↔
      l.state ≠ .ownedHere ∧ ∃ f, r.tree.Obstacle l.path f ∧ e = ⟨l.name, f.message⟩) ∧
    ∀ e, failed e →
      (l.state = .unowned ∨ l.state = .heldByOther) ∧ l.handle = none ∧
      r.perform (.acquire id) = ⟨(.acquisition (.error e), r), []⟩ ∧
      ∀ rest, ∃ later,
        ({} : Registry).history (es ++ .step (.acquire id) :: rest) =
          ({} : Registry).history es ++ ⟨some (.acquisition (.error e)), [], r⟩ :: later ∧
        ({} : Registry).history (es ++ rest) = ({} : Registry).history es ++ later := by
  intro r failed
  have hc : Consistent r := Consistent.start.after es
  have hanswer : (r.perform (.acquire id)).value.1 = .acquisition (r.acquireLock id l).value.1 :=
    answer_acquire h
  have hfailed : ∀ e, failed e ↔ (r.acquireLock id l).value.1 = .error e := by
    intro e
    show (r.perform (.acquire id)).value.1 = .acquisition (.error e) ↔ _
    rw [hanswer, LockAnswer.acquisition.injEq]
  refine ⟨fun e => (hfailed e).trans acquireLock_eq_error_iff, fun e he => ?_⟩
  rw [hfailed] at he
  obtain ⟨hown, -⟩ := acquireLock_eq_error_iff.1 he
  have hperform : r.perform (.acquire id) = ⟨(.acquisition (.error e), r), []⟩ :=
    perform_acquire_of_failed h he
  refine ⟨?_, hc.handle_eq_none h hown, hperform, fun rest => ⟨r.history rest, ?_, ?_⟩⟩
  · cases hstate : l.state with
    | unowned => exact .inl rfl
    | ownedHere => exact absurd hstate hown
    | heldByOther => exact .inr rfl
  · have hnext : r.history (.step (.acquire id) :: rest) =
        ⟨some (.acquisition (.error e)), [], r⟩ :: r.history rest := by
      rw [history, answerTo, entriesOf, happen, hperform]
    rw [history_append]
    exact congrArg _ hnext
  · exact history_append {} es rest

/-- A lock is not acquired while its folder is missing, and once the folder is there it is acquired as
if it had not been tried before. -/
theorem failed_attempt_leaves_no_trace_in_missing_folder :
    let es : List LockEvent := [.step (.create "x" "a/b" ⟨"lock"⟩)]
    let rest : List LockEvent := [.makeFolders ⟨"lock"⟩, .step (.acquire "x")]
    let r := ({} : Registry).after es
    let e : LockFault := ⟨"a/b", Fault.notFound.message⟩
    r.perform (.acquire "x") = ⟨(.acquisition (.error e), r), []⟩ ∧
    ∃ later,
      ({} : Registry).history (es ++ .step (.acquire "x") :: rest) =
        ({} : Registry).history es ++ ⟨some (.acquisition (.error e)), [], r⟩ :: later ∧
      ({} : Registry).history (es ++ rest) = ({} : Registry).history es ++ later := by
  intro es rest r e
  let l : Lock := { name := "a/b", folder := ⟨"lock"⟩ }
  obtain ⟨hfailed, htrace⟩ := failed_attempt_leaves_no_trace es "x" l (by decide +kernel)
  have hsteps : Tree.stepsTo l.path = .ok ([.down "lock"] ++ .down "a_b.lock" :: []) := by
    decide +kernel
  have hbefore : r.tree.walk [] [.down "lock"] = .ok ["lock"] := by decide +kernel
  have hobstacle : r.tree.Obstacle l.path .notFound :=
    .step hsteps hbefore (.missing (by decide +kernel))
  obtain ⟨-, -, hperform, hrest⟩ := htrace e ((hfailed e).2 ⟨nofun, .notFound, hobstacle, rfl⟩)
  exact ⟨hperform, hrest rest⟩

end Registry

end LaunchGuard
