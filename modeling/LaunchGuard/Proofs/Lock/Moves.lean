/-
# The moves of a launch lock

A lock step is made of a few moves of one lock.

* A lock that asks for its file is *refused* it, or *takes* it.
* A lock that has its file open *gives* it back; one that has not *forgets* what it was told.
* A lock without an open file is *erased*, and a new lock is *added* under a free identifier.

No move touches a lock of another identifier, and all of them keep the files.
-/
import Mathlib.Logic.Relation
import LaunchGuard.Proofs.Files.Keeping
import LaunchGuard.Proofs.Lock.Answers

namespace LaunchGuard

namespace Registry

variable {r r' : Registry} {id : String} {l : Lock}

lemma lock?_put (r : Registry) (id i : String) (l : Lock) :
    (r.put id l).lock? i = if i = id then (r.lock? id).map fun _ => l else r.lock? i :=
  lookup_replace r.locks id i l

lemma lock?_put_self (h : r.lock? id = some l) (l' : Lock) :
    (r.put id l').lock? id = some l' := by
  rw [lock?_put, if_pos rfl, h, Option.map_some]

lemma keys_put (r : Registry) (id : String) (l : Lock) :
    (r.put id l).locks.map Prod.fst = r.locks.map Prod.fst :=
  keys_replace r.locks id l

lemma lock?_erase (r : Registry) (id i : String) :
    (r.erase id).lock? i = if i = id then none else r.lock? i :=
  lookup_remove r.locks id i

lemma lock?_append (r : Registry) (id i : String) (l : Lock) :
    ({ r with locks := r.locks ++ [(id, l)] } : Registry).lock? i =
      (r.lock? i).or (if i = id then some l else none) := by
  rw [lock?, List.lookup_append]
  by_cases hi : i = id
  · rw [hi, List.lookup_cons_self, if_pos rfl, lock?]
  · rw [lookup_cons_of_ne hi, if_neg hi, List.lookup_nil, lock?]

/-- What can happen to the lock of an identifier at once. -/
inductive Move (id : String) (r : Registry) : Registry → Prop
  | refuse {l : Lock} {n : Nat} {t : Tree} : r.lock? id = some l → l.state ≠ .ownedHere →
      r.tree.openOrMake l.path = .ok (n, t) → n ∈ r.held →
      Move id r ({ r with tree := t }.put id { l with state := .heldByOther })
  | take {l : Lock} {n : Nat} {t : Tree} : r.lock? id = some l → l.state ≠ .ownedHere →
      r.tree.openOrMake l.path = .ok (n, t) → n ∉ r.held →
      Move id r ({ r with tree := t, held := n :: r.held }.put id
        { l with state := .ownedHere, handle := some n })
  | give {l : Lock} {n : Nat} : r.lock? id = some l → l.handle = some n →
      Move id r ({ r with held := r.held.filter (· ≠ n) }.put id
        { l with state := .unowned, handle := none })
  | forget {l : Lock} : r.lock? id = some l → l.handle = none →
      Move id r (r.put id { l with state := .unowned, handle := none })
  | erase : (∀ l, r.lock? id = some l → l.handle = none) → Move id r (r.erase id)
  | add (name : String) (folder : Path) : r.lock? id = none →
      Move id r { r with locks := r.locks ++ [(id, { name, folder })] }

/-- Any number of moves of one lock. -/
def Moves (id : String) : Registry → Registry → Prop := Relation.ReflTransGen (Move id)

/-! ### What a move leaves alone -/

lemma Move.lock?_of_ne (h : Move id r r') {i : String} (hi : i ≠ id) : r'.lock? i = r.lock? i := by
  cases h with
  | refuse => rw [lock?_put, if_neg hi]; rfl
  | take => rw [lock?_put, if_neg hi]; rfl
  | give => rw [lock?_put, if_neg hi]; rfl
  | forget => rw [lock?_put, if_neg hi]
  | erase => rw [lock?_erase, if_neg hi]
  | add name folder => rw [lock?_append, if_neg hi, Option.or_none]

lemma Move.keeps (h : Move id r r') {files : Nat → Prop} : r.tree.Keeps files r'.tree := by
  cases h with
  | refuse _ _ hopen _ => exact Tree.keeps_openOrMake hopen
  | take _ _ hopen _ => exact Tree.keeps_openOrMake hopen
  | _ => exact Tree.Keeps.refl r.tree

/-- A lock has the file open that it had open before, or the one that its path leads to. -/
lemma Move.opened (h : Move id r r') {n : Nat} (hl : r'.lock? id = some l)
    (hn : l.handle = some n) :
    (∃ l₀, r.lock? id = some l₀ ∧ l₀.handle = some n ∧ l₀.path = l.path) ∨
      r'.tree.fileAt? l.path = some n := by
  cases h with
  | @refuse l₀ m t h₀ _ _ _ =>
    have h₀' : ({ r with tree := t } : Registry).lock? id = some l₀ := h₀
    cases (lock?_put_self h₀' _).symm.trans hl
    exact .inl ⟨l₀, h₀, hn, rfl⟩
  | @take l₀ m t h₀ _ hopen _ =>
    have h₀' : ({ r with tree := t, held := m :: r.held } : Registry).lock? id = some l₀ := h₀
    cases (lock?_put_self h₀' _).symm.trans hl
    cases hn
    exact .inr (Tree.fileAt?_openOrMake hopen)
  | @give l₀ m h₀ _ =>
    have h₀' : ({ r with held := r.held.filter (· ≠ m) } : Registry).lock? id = some l₀ := h₀
    cases (lock?_put_self h₀' _).symm.trans hl
    cases hn
  | forget h₀ _ =>
    cases (lock?_put_self h₀ _).symm.trans hl
    cases hn
  | erase _ =>
    rw [lock?_erase, if_pos rfl] at hl
    cases hl
  | add name folder hfree =>
    rw [lock?_append, hfree, if_pos rfl, Option.none_or] at hl
    cases hl
    cases hn

lemma Moves.lock?_of_ne (h : Moves id r r') {i : String} (hi : i ≠ id) :
    r'.lock? i = r.lock? i := by
  induction h with
  | refl => rfl
  | tail _ hmove ih => rw [hmove.lock?_of_ne hi, ih]

lemma Moves.keeps (h : Moves id r r') {files : Nat → Prop} : r.tree.Keeps files r'.tree := by
  induction h with
  | refl => exact Tree.Keeps.refl r.tree
  | tail _ hmove ih => exact ih.trans hmove.keeps

/-! ### The moves of each step -/

lemma AcquireEnds.moves {answer : Except LockFault Acquisition}
    (hends : AcquireEnds r id l answer r') (h : r.lock? id = some l) : Moves id r r' := by
  cases hends with
  | again _ => exact .refl
  | failed _ _ => exact .refl
  | refused hown hopen hn => exact .single (.refuse h hown hopen hn)
  | taken hown hopen hn => exact .single (.take h hown hopen hn)

lemma releaseLock_moves (h : r.lock? id = some l) : Moves id r (r.releaseLock id l).value := by
  rcases hh : l.handle with _ | n
  · rw [releaseLock, hh]
    exact .single (.forget h hh)
  · rw [releaseLock, hh]
    exact .single (.give h hh)

lemma lock?_releaseLock (h : r.lock? id = some l) :
    (r.releaseLock id l).value.lock? id = some { l with state := .unowned, handle := none } := by
  rcases hh : l.handle with _ | n
  · rw [releaseLock, hh]
    exact lock?_put_self h _
  · have hheld : ({ r with held := r.held.filter (· ≠ n) } : Registry).lock? id = some l := h
    rw [releaseLock, hh]
    exact lock?_put_self hheld _

lemma release_moves (r : Registry) (id : String) : Moves id r (r.release id).value.2 := by
  rw [release]
  cases h : r.lock? id with
  | none => exact .refl
  | some l => exact releaseLock_moves h

/-- A released lock has no file open. -/
lemma handle_release (h : (r.release id).value.2.lock? id = some l) : l.handle = none := by
  rw [release] at h
  cases hl : r.lock? id with
  | none =>
    rw [hl] at h
    cases hl.symm.trans h
  | some l' =>
    rw [hl] at h
    cases (lock?_releaseLock hl).symm.trans h
    rfl

lemma drop_moves (r : Registry) (id : String) : Moves id r (r.drop id).value.2 :=
  (release_moves r id).tail (.erase fun _ => handle_release)

lemma lock?_drop (r : Registry) (id : String) : (r.drop id).value.2.lock? id = none :=
  (lock?_erase _ id id).trans (if_pos rfl)

lemma create_moves (r : Registry) (id name : String) (folder : Path) :
    Moves id r (r.create id name folder).value :=
  (drop_moves r id).tail (.add name folder (lock?_drop r id))

lemma lock?_create (r : Registry) (id name : String) (folder : Path) :
    (r.create id name folder).value.lock? id = some { name, folder } := by
  have hadd := lock?_append (r.drop id).value.2 id id { name, folder }
  rw [lock?_drop, if_pos rfl, Option.none_or] at hadd
  exact hadd

lemma ClaimEnds.moves {enabled : Bool} {answer : Except LockFault Role}
    (hends : ClaimEnds r id l enabled answer r') (h : r.lock? id = some l) : Moves id r r' := by
  cases hends with
  | unguarded => exact drop_moves r id
  | failed hacquire => exact (hacquire.moves h).trans (drop_moves _ id)
  | duplicate hacquire => exact (hacquire.moves h).trans (drop_moves _ id)
  | primary hacquire => exact hacquire.moves h

/-- A step moves the lock that it is about and no other. -/
lemma perform_moves (r : Registry) (s : LockStep) : Moves s.id r (r.perform s).value.2 := by
  cases s with
  | create id name folder => exact create_moves r id name folder
  | acquire id =>
    rw [perform, acquire]
    cases h : r.lock? id with
    | none => exact .refl
    | some l => exact (acquireLock_ends r id l).moves h
  | release id => exact release_moves r id
  | drop id => exact drop_moves r id
  | claim id enabled =>
    rw [perform, claim]
    cases h : r.lock? id with
    | none => exact .refl
    | some l => exact (claimLock_ends r id l enabled).moves h

/-! ### What a lock keeps -/

variable {l' : Lock}

/-- Acquiring a lock leaves its name and its folder as they are. -/
lemma AcquireEnds.lock? {answer : Except LockFault Acquisition}
    (hends : AcquireEnds r id l answer r') (hl : r.lock? id = some l)
    (h : r'.lock? id = some l') : l'.name = l.name ∧ l'.folder = l.folder := by
  cases hends with
  | again _ =>
    cases hl.symm.trans h
    exact ⟨rfl, rfl⟩
  | failed _ _ =>
    cases hl.symm.trans h
    exact ⟨rfl, rfl⟩
  | refused _ _ _ =>
    cases (lock?_put_self hl _).symm.trans h
    exact ⟨rfl, rfl⟩
  | taken _ _ _ =>
    cases (lock?_put_self hl _).symm.trans h
    exact ⟨rfl, rfl⟩

/-- So does a claim, if it leaves the lock. -/
lemma ClaimEnds.lock? {enabled : Bool} {answer : Except LockFault Role}
    (hends : ClaimEnds r id l enabled answer r') (hl : r.lock? id = some l)
    (h : r'.lock? id = some l') : l'.name = l.name ∧ l'.folder = l.folder := by
  cases hends with
  | primary hacquire => exact hacquire.lock? hl h
  | _ => cases (lock?_drop _ id).symm.trans h

/-- After a step its lock has the name and the folder that it had before, or it is new. -/
lemma lock?_perform {s : LockStep} (h : (r.perform s).value.2.lock? s.id = some l') :
    (∃ l, r.lock? s.id = some l ∧ l'.name = l.name ∧ l'.folder = l.folder) ∨
      ∃ id name folder, s = .create id name folder ∧ l' = { name, folder } := by
  cases s with
  | create id name folder =>
    cases (lock?_create r id name folder).symm.trans h
    exact .inr ⟨id, name, folder, rfl, rfl⟩
  | acquire id =>
    left
    rw [perform, acquire, LockStep.id] at h
    rw [LockStep.id]
    cases hl : r.lock? id with
    | none =>
      rw [hl] at h
      cases hl.symm.trans h
    | some l =>
      rw [hl] at h
      exact ⟨l, rfl, (acquireLock_ends r id l).lock? hl h⟩
  | release id =>
    left
    change (r.release id).value.2.lock? id = _ at h
    rw [release] at h
    rw [LockStep.id]
    cases hl : r.lock? id with
    | none =>
      rw [hl] at h
      cases hl.symm.trans h
    | some l =>
      rw [hl] at h
      cases (lock?_releaseLock hl).symm.trans h
      exact ⟨l, rfl, rfl, rfl⟩
  | drop id => cases (lock?_drop r id).symm.trans h
  | claim id enabled =>
    left
    rw [perform, claim, LockStep.id] at h
    rw [LockStep.id]
    cases hl : r.lock? id with
    | none =>
      rw [hl] at h
      cases hl.symm.trans h
    | some l =>
      rw [hl] at h
      exact ⟨l, rfl, (claimLock_ends r id l enabled).lock? hl h⟩

end Registry

end LaunchGuard
