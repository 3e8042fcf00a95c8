/-
# Claiming a launch with a live lock

A launch may be claimed with any live lock, be it one that owns its file, one that was refused it
or one that never asked.  The lock stays with a primary instance only.  In all other cases it is
dropped, and then nothing is left of it: the locked files are those that other locks have open.
-/
import LaunchGuard.Proofs.Lock.Groups

namespace LaunchGuard.Registry

variable {r r' : Registry} {id : String} {l : Lock} {enabled : Bool}
  {answer : Except LockFault Role}

namespace ClaimEnds

section Answers

variable (hends : ClaimEnds r id l enabled answer r') (hc : Consistent r)
  (h : r.lock? id = some l)

include hends hc h

lemma primary_iff : answer = .ok .primary ↔ enabled = true ∧ (l.state = .ownedHere ∨
    (r.tree.openOrMake l.path).isOk = true ∧ ¬r.TakenElsewhere id l) := by
  cases hends with
  | unguarded => simp
  | failed hacquire =>
    rw [← hacquire.acquired_iff hc h]
    simp
  | duplicate hacquire =>
    rw [← hacquire.acquired_iff hc h]
    simp
  | primary hacquire =>
    rw [← hacquire.acquired_iff hc h]
    simp

lemma duplicate_iff : answer = .ok .duplicate ↔ enabled = true ∧ l.state ≠ .ownedHere ∧
    (r.tree.openOrMake l.path).isOk = true ∧ r.TakenElsewhere id l := by
  cases hends with
  | unguarded => simp
  | failed hacquire =>
    rw [← hacquire.alreadyHeld_iff hc h]
    simp
  | duplicate hacquire =>
    rw [← hacquire.alreadyHeld_iff hc h]
    simp
  | primary hacquire =>
    rw [← hacquire.alreadyHeld_iff hc h]
    simp

omit hc h in
lemma unguarded_iff : answer = .ok .unguarded ↔ enabled = false := by
  cases hends <;> simp

omit hc h in
lemma error_iff : (∃ f, answer = .error f) ↔ enabled = true ∧ l.state ≠ .ownedHere ∧
    ¬(r.tree.openOrMake l.path).isOk = true := by
  cases hends with
  | unguarded => simp
  | failed hacquire =>
    rw [← hacquire.error_iff]
    simp
  | duplicate hacquire =>
    rw [← hacquire.error_iff]
    simp
  | primary hacquire =>
    rw [← hacquire.error_iff]
    simp

/-- A primary instance has the lock, which owns its file. -/
lemma owns (hprimary : answer = .ok .primary) :
    ∃ n, r'.lock? id = some { l with state := .ownedHere, handle := some n } := by
  cases hends with
  | primary hacquire => exact hacquire.owns hc h rfl
  | _ => cases hprimary

end Answers

/-- Who does not become a primary instance loses the lock. -/
lemma gone (hends : ClaimEnds r id l enabled answer r') (hother : answer ≠ .ok .primary) :
    r'.lock? id = none := by
  cases hends with
  | primary _ => exact absurd rfl hother
  | _ => exact lock?_drop _ id

end ClaimEnds

/-! ### What is left of a lock that is gone -/

/-- Once a lock is gone, the locked files are those that other locks have open. -/
lemma mem_held_of_gone (hc : Consistent r') (hgone : r'.lock? id = none)
    (hframe : ∀ i, i ≠ id → r'.lock? i = r.lock? i) {n : Nat} :
    n ∈ r'.held ↔ ∃ i, i ≠ id ∧ r.handle? i = some n := by
  rw [hc.locked n]
  refine exists_congr fun i => ?_
  by_cases hi : i = id
  · rw [hi, handle?, hgone]
    simp
  · rw [handle?, hframe i hi, handle?]
    simp [hi]

/-- Whoever finds a file at its path that is not locked acquires it. -/
lemma acquire_of_free (h : r.lock? id = some l) {n : Nat} (hfile : r.tree.fileAt? l.path = some n)
    (hfree : n ∉ r.held) : (r.perform (.acquire id)).value.1 = .acquisition (.ok .acquired) := by
  have hanswer : (r.acquireLock id l).value.1 = .ok .acquired := by
    by_cases hown : l.state = .ownedHere
    · rw [acquireLock_of_owned hown]
      rfl
    · rw [acquireLock_of_free hown (Tree.openOrMake_of_fileAt? hfile) hfree]
  rw [perform, acquire, h]
  exact congrArg (fun a => LockAnswer.acquisition a) hanswer

/-- So does a new lock. -/
lemma create_acquire_of_free (hc : Consistent r) {name : String} {folder : Path} {n : Nat}
    (hfile : r.tree.fileAt? (Lock.path { name, folder }) = some n) (hfree : n ∉ r.held)
    (i : String) : (r.performAll [.create i name folder, .acquire i]).value.1 =
      [.created, .acquisition (.ok .acquired)] := by
  have hmoves : Moves i r (r.create i name folder).value := create_moves r i name folder
  have hnew := lock?_create r i name folder
  -- a new lock has no file open, and dropping the old one of its identifier locks none
  have hfree' : n ∉ (r.create i name folder).value.held := by
    intro hn
    obtain ⟨j, hj⟩ := ((hc.moves hmoves).locked n).1 hn
    by_cases hji : j = i
    · rw [hji, handle?_of_lock? hnew] at hj
      cases hj
    · rw [handle?, hmoves.lock?_of_ne hji] at hj
      exact hfree ((hc.locked n).2 ⟨j, hj⟩)
  have htree : (r.create i name folder).value.tree = r.tree := tree_drop r i
  have hacquire := acquire_of_free hnew (htree ▸ hfile) hfree'
  exact congrArg (fun a => [LockAnswer.created, a]) hacquire

/-- **Claims neither leak nor steal.**  Let anything have happened to the locks and the files, and
let a live lock claim the launch.  It becomes the primary instance exactly if enforcement is on and
it owns its file already, or its file can be opened and no other lock has it open; it keeps its lock
then, which owns a locked file.  In all other cases the lock is gone, and the locked files are those
that other locks have open: if the lock owned a file, the next lock whose path leads to it acquires
it, be it there already or new.  The other locks keep their states and their files.  Unless an owned
file was removed, to have the file of a path open is to own the lock file of that path. -/
theorem claim_settles_ownership (es : List LockEvent) (id : String) (l : Lock) (enabled : Bool)
    (h : (({} : Registry).after es).lock? id = some l) :
    let r := ({} : Registry).after es
    let answer := (r.perform (.claim id enabled)).value.1
    let r' := (r.perform (.claim id enabled)).value.2
    (answer = .role (.ok .primary) ↔ enabled = true ∧ (l.state = .ownedHere ∨
      (r.tree.openOrMake l.path).isOk = true ∧ ¬r.TakenElsewhere id l)) ∧
    (answer = .role (.ok .duplicate) ↔ enabled = true ∧ l.state ≠ .ownedHere ∧
      (r.tree.openOrMake l.path).isOk = true ∧ r.TakenElsewhere id l) ∧
    (answer = .role (.ok .unguarded) ↔ enabled = false) ∧
    ((∃ f, answer = .role (.error f)) ↔ enabled = true ∧ l.state ≠ .ownedHere ∧
      ¬(r.tree.openOrMake l.path).isOk = true) ∧
    (answer = .role (.ok .primary) →
      ∃ n, r'.lock? id = some { l with state := .ownedHere, handle := some n } ∧ n ∈ r'.held) ∧
    (answer ≠ .role (.ok .primary) →
      r'.lock? id = none ∧
      (∀ n, n ∈ r'.held ↔ ∃ i, i ≠ id ∧ r.handle? i = some n) ∧
      ∀ n, l.handle = some n →
        (∀ i l', r'.lock? i = some l' → r'.tree.fileAt? l'.path = some n →
          (r'.perform (.acquire i)).value.1 = .acquisition (.ok .acquired)) ∧
        ∀ i name folder, r'.tree.fileAt? (Lock.path { name, folder }) = some n →
          (r'.performAll [.create i name folder, .acquire i]).value.1 =
            [.created, .acquisition (.ok .acquired)]) ∧
    (∀ i, i ≠ id → r'.lock? i = r.lock? i ∧ ∀ n, r.handle? i = some n → n ∈ r'.held) ∧
    (({} : Registry).KeepsOwned es →
      (r.TakenElsewhere id l ↔ r.OwnedElsewhere id l) ∧
      ∀ n, l.handle = some n → r'.tree.fileAt? l.path = some n) := by
  intro r answer r'
  have hc : Consistent r := Consistent.start.after es
  have hmoves : Moves id r r' := perform_moves r (.claim id enabled)
  have hc' : Consistent r' := hc.moves hmoves
  have hframe : ∀ i, i ≠ id → r'.lock? i = r.lock? i := fun i hi => hmoves.lock?_of_ne hi
  obtain ⟨a, hanswer, hends⟩ : ∃ a, answer = .role a ∧ ClaimEnds r id l enabled a r' :=
    perform_claim h enabled
  simp only [hanswer, LockAnswer.role.injEq, ne_eq]
  refine ⟨hends.primary_iff hc h, hends.duplicate_iff hc h, hends.unguarded_iff,
    hends.error_iff, fun hprimary => ?_, fun hother => ?_, fun i hi => ?_, fun hkeeps => ?_⟩
  · obtain ⟨n, hn⟩ := hends.owns hc h hprimary
    exact ⟨n, hn, (hc'.locked n).2 ⟨id, handle?_of_lock? hn⟩⟩
  · have hgone : r'.lock? id = none := hends.gone hother
    have hheld : ∀ n, n ∈ r'.held ↔ ∃ i, i ≠ id ∧ r.handle? i = some n :=
      fun n => mem_held_of_gone hc' hgone hframe
    refine ⟨hgone, hheld, fun n hn => ?_⟩
    -- no other lock had the file open, so it is not locked any more
    have hfree : n ∉ r'.held := by
      intro hmem
      obtain ⟨i, hi, hin⟩ := (hheld n).1 hmem
      exact hi (hc.apart i id n hin ((handle?_of_lock? h).trans hn))
    exact ⟨fun i l' hl' hfile => acquire_of_free hl' hfile hfree,
      fun i name folder hfile => create_acquire_of_free hc' hfile hfree i⟩
  · refine ⟨hframe i hi, fun n hn => (hc'.locked n).2 ⟨i, ?_⟩⟩
    rw [handle?, hframe i hi]
    exact hn
  · have hs : Sound r := Sound.start.after hkeeps
    have hstays : r.tree.Keeps (fun _ => True) r'.tree := hmoves.keeps
    exact ⟨hs.takenElsewhere_iff, fun n hn => hstays.fileAt? (hs.opened id l n h hn) trivial⟩

/-- A lock that is claimed with enforcement off gives its file to the next one. -/
theorem claim_settles_ownership_off :
    let es : List LockEvent := [.makeFolders ⟨"a"⟩, .step (.create "x" "n" ⟨"a"⟩),
      .step (.create "y" "n" ⟨"./a"⟩), .step (.acquire "x"), .step (.acquire "y")]
    let r' := ((({} : Registry).after es).perform (.claim "x" false)).value.2
    r'.lock? "x" = none ∧
      (r'.perform (.acquire "y")).value.1 = .acquisition (.ok .acquired) := by
  intro es
  let l : Lock := { name := "n", folder := ⟨"a"⟩, state := .ownedHere, handle := some 0 }
  have hclaim := claim_settles_ownership es "x" l false (by decide +kernel)
  intro r'
  obtain ⟨-, -, hunguarded, -, -, hother, -, -⟩ := hclaim
  have hanswer := hunguarded.2 rfl
  obtain ⟨hgone, -, hnext⟩ := hother fun hprimary => nomatch hanswer.symm.trans hprimary
  obtain ⟨hacquires, -⟩ := hnext 0 rfl
  refine ⟨hgone, hacquires "y" { name := "n", folder := ⟨"./a"⟩, state := .heldByOther } ?_ ?_⟩
  · decide +kernel
  · decide +kernel

end LaunchGuard.Registry
