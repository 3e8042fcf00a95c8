/-
# What lock steps do to the files

A lock step may open the file of its lock, and so make it if it is missing.  Nothing else is done to
the tree of files by the locks.  So every file keeps a number of its own, whatever happens to the
locks and the files around them.
-/
import LaunchGuard.Proofs.Files.Adding
import LaunchGuard.Proofs.Lock.Agreement

namespace LaunchGuard.Registry

variable {r r' : Registry} {id : String} {l : Lock}

/-! ### What each step does -/

/-- Acquiring a lock may open its file, and does nothing else to the tree. -/
lemma AcquireEnds.tree {answer : Except LockFault Acquisition}
    (hends : AcquireEnds r id l answer r') :
    r'.tree = r.tree ∨ ∃ n, r.tree.openOrMake l.path = .ok (n, r'.tree) := by
  cases hends with
  | again _ => exact .inl rfl
  | failed _ _ => exact .inl rfl
  | @refused n _ _ hopen _ => exact .inr ⟨n, hopen⟩
  | @taken n _ _ hopen _ => exact .inr ⟨n, hopen⟩

lemma tree_releaseLock (r : Registry) (id : String) (l : Lock) :
    (r.releaseLock id l).value.tree = r.tree := by
  rw [releaseLock]
  cases l.handle <;> rfl

lemma tree_release (r : Registry) (id : String) : (r.release id).value.2.tree = r.tree := by
  rw [release]
  cases r.lock? id with
  | none => rfl
  | some l => exact tree_releaseLock r id l

lemma tree_drop (r : Registry) (id : String) : (r.drop id).value.2.tree = r.tree :=
  tree_release r id

lemma ClaimEnds.tree {enabled : Bool} {answer : Except LockFault Role}
    (hends : ClaimEnds r id l enabled answer r') :
    r'.tree = r.tree ∨ ∃ n, r.tree.openOrMake l.path = .ok (n, r'.tree) := by
  cases hends with
  | unguarded => exact .inl (tree_drop r id)
  | failed hacquire =>
    rw [tree_drop]
    exact hacquire.tree
  | duplicate hacquire =>
    rw [tree_drop]
    exact hacquire.tree
  | primary hacquire => exact hacquire.tree

/-- A step may open the file of its lock, and does nothing else to the tree. -/
lemma tree_perform (r : Registry) (s : LockStep) :
    (r.perform s).value.2.tree = r.tree ∨
      ∃ l n, r.lock? s.id = some l ∧
        r.tree.openOrMake l.path = .ok (n, (r.perform s).value.2.tree) := by
  cases s with
  | create id name folder => exact .inl (tree_drop r id)
  | acquire id =>
    rw [perform, acquire, LockStep.id]
    cases hl : r.lock? id with
    | none => exact .inl rfl
    | some l =>
      rcases (acquireLock_ends r id l).tree with hsame | ⟨n, hopen⟩
      · exact .inl hsame
      · exact .inr ⟨l, n, rfl, hopen⟩
  | release id => exact .inl (tree_release r id)
  | drop id => exact .inl (tree_drop r id)
  | claim id enabled =>
    rw [perform, claim, LockStep.id]
    cases hl : r.lock? id with
    | none => exact .inl rfl
    | some l =>
      rcases (claimLock_ends r id l enabled).tree with hsame | ⟨n, hopen⟩
      · exact .inl hsame
      · exact .inr ⟨l, n, rfl, hopen⟩

/-! ### Numbers of files -/

/-- Whatever happens, every file keeps a number of its own. -/
lemma counted_happen (h : r.tree.Counted) (e : LockEvent) : (r.happen e).tree.Counted := by
  cases e with
  | step s =>
    rcases tree_perform r s with hsame | ⟨l, n, -, hopen⟩
    · rw [happen, hsame]
      exact h
    · exact h.openOrMake hopen
  | makeFolders p =>
    exact Tree.ensureChain_induction (motive := Tree.Counted)
      (fun _ _ _ _ hmake ht => ht.makeFolder hmake) h
  | write p content =>
    rw [happen]
    cases ht : r.tree.write p content with
    | ok t => exact h.write ht
    | error f => exact h
  | remove p =>
    rw [happen]
    cases ht : r.tree.remove p with
    | ok t => exact h.remove ht
    | error f => exact h

lemma counted_after (h : r.tree.Counted) (scene : List LockEvent) :
    (r.after scene).tree.Counted := by
  induction scene generalizing r with
  | nil => exact h
  | cons e es ih => exact ih (counted_happen h e)

end LaunchGuard.Registry
