/-
# How asking and claiming end

A lock that asks for its file owns it already, or the file cannot be opened, or another handle has
it locked, or the lock takes it.  A claim asks only if enforcement is on, and drops the lock unless
it makes a primary instance.  What is known about either is read off these cases.
-/
import Mathlib.Tactic.Lemma
import LaunchGuard.Lock.Run

namespace LaunchGuard.Registry

variable {r r' : Registry} {id : String} {l : Lock}

/-! ### Asking -/

lemma acquireLock_of_owned (hown : l.state = .ownedHere) :
    r.acquireLock id l = pure (.ok .acquired, r) := if_pos hown

section Asking

variable (hown : l.state ≠ .ownedHere)

include hown

lemma acquireLock_of_error {f : Fault} (hopen : r.tree.openOrMake l.path = .error f) :
    r.acquireLock id l = pure (.error ⟨l.name, f.message⟩, r) := by
  rw [acquireLock, if_neg hown, hopen]

lemma acquireLock_of_held {n : Nat} {t : Tree} (hopen : r.tree.openOrMake l.path = .ok (n, t))
    (hn : n ∈ r.held) :
    r.acquireLock id l =
      ⟨(.ok .alreadyHeld, { r with tree := t }.put id { l with state := .heldByOther }),
        [⟨.info, .lock, "Launch lock " ++ l.name ++ " is held by another process"⟩]⟩ := by
  rw [acquireLock, if_neg hown, hopen]
  exact if_pos hn

lemma acquireLock_of_free {n : Nat} {t : Tree} (hopen : r.tree.openOrMake l.path = .ok (n, t))
    (hn : n ∉ r.held) :
    r.acquireLock id l =
      ⟨(.ok .acquired, { r with tree := t, held := n :: r.held }.put id
          { l with state := .ownedHere, handle := some n }),
        [⟨.info, .lock, "Acquired launch lock " ++ l.name⟩]⟩ := by
  rw [acquireLock, if_neg hown, hopen]
  exact if_neg hn

end Asking

/-- How an attempt to acquire a lock ends: the answer, and the registry afterwards. -/
inductive AcquireEnds (r : Registry) (id : String) (l : Lock) :
    Except LockFault Acquisition → Registry → Prop
  /-- The lock owns its file already. -/
  | again : l.state = .ownedHere → AcquireEnds r id l (.ok .acquired) r
  | failed {f : Fault} : l.state ≠ .ownedHere → r.tree.openOrMake l.path = .error f →
      AcquireEnds r id l (.error ⟨l.name, f.message⟩) r
  | refused {n : Nat} {t : Tree} : l.state ≠ .ownedHere →
      r.tree.openOrMake l.path = .ok (n, t) → n ∈ r.held →
      AcquireEnds r id l (.ok .alreadyHeld)
        ({ r with tree := t }.put id { l with state := .heldByOther })
  | taken {n : Nat} {t : Tree} : l.state ≠ .ownedHere →
      r.tree.openOrMake l.path = .ok (n, t) → n ∉ r.held →
      AcquireEnds r id l (.ok .acquired) ({ r with tree := t, held := n :: r.held }.put id
        { l with state := .ownedHere, handle := some n })

lemma acquireLock_ends (r : Registry) (id : String) (l : Lock) :
    AcquireEnds r id l (r.acquireLock id l).value.1 (r.acquireLock id l).value.2 := by
  by_cases hown : l.state = .ownedHere
  · rw [acquireLock_of_owned hown]
    exact .again hown
  · rcases hopen : r.tree.openOrMake l.path with f | ⟨n, t⟩
    · rw [acquireLock_of_error hown hopen]
      exact .failed hown hopen
    · by_cases hn : n ∈ r.held
      · rw [acquireLock_of_held hown hopen hn]
        exact .refused hown hopen hn
      · rw [acquireLock_of_free hown hopen hn]
        exact .taken hown hopen hn

/-! ### Claiming -/

section Attempt

variable {σ : Type} {s s' : σ} {log : List Entry}

lemma claim_on_error {f : LockFault} :
    LaunchGuard.claim true s ⟨(.error f, s'), log⟩ = ⟨(.error f, s'), log⟩ :=
  congrArg (Logged.mk _) (List.append_nil log)

lemma claim_on_acquired :
    LaunchGuard.claim true s ⟨(.ok .acquired, s'), log⟩ = ⟨(.ok .primary, s'), log⟩ :=
  congrArg (Logged.mk _) (List.append_nil log)

lemma claim_on_held :
    LaunchGuard.claim true s ⟨(.ok .alreadyHeld, s'), log⟩ =
      ⟨(.ok .duplicate, s'), log ++ [⟨.info, .claim, "Another instance is already running"⟩]⟩ := rfl

end Attempt

/-- How a claim ends: whether enforcement is on, the answer, and the registry afterwards. -/
inductive ClaimEnds (r : Registry) (id : String) (l : Lock) :
    Bool → Except LockFault Role → Registry → Prop
  /-- Enforcement is off, and the lock is dropped as it is. -/
  | unguarded : ClaimEnds r id l false (.ok .unguarded) (r.drop id).value.2
  | failed {f : LockFault} {r' : Registry} : AcquireEnds r id l (.error f) r' →
      ClaimEnds r id l true (.error f) (r'.drop id).value.2
  | duplicate {r' : Registry} : AcquireEnds r id l (.ok .alreadyHeld) r' →
      ClaimEnds r id l true (.ok .duplicate) (r'.drop id).value.2
  | primary {r' : Registry} : AcquireEnds r id l (.ok .acquired) r' →
      ClaimEnds r id l true (.ok .primary) r'

lemma claimLock_ends (r : Registry) (id : String) (l : Lock) (enabled : Bool) :
    ClaimEnds r id l enabled (r.claimLock id l enabled).value.1
      (r.claimLock id l enabled).value.2 := by
  cases enabled with
  | false => exact .unguarded
  | true =>
    have hends := acquireLock_ends r id l
    rcases hacquire : r.acquireLock id l with ⟨⟨f | _ | _, r₁⟩, log⟩
    · rw [hacquire] at hends
      rw [claimLock, hacquire]
      exact .failed hends
    · rw [hacquire] at hends
      rw [claimLock, hacquire]
      exact .primary hends
    · rw [hacquire] at hends
      rw [claimLock, hacquire]
      exact .duplicate hends

lemma perform_claim (h : r.lock? id = some l) (enabled : Bool) :
    ∃ answer, (r.perform (.claim id enabled)).value.1 = .role answer ∧
      ClaimEnds r id l enabled answer (r.perform (.claim id enabled)).value.2 := by
  have hends := claimLock_ends r id l enabled
  refine ⟨(r.claimLock id l enabled).value.1, ?_, ?_⟩
  · rw [perform, claim, h]
    rfl
  · rw [perform, claim, h]
    exact hends

end LaunchGuard.Registry
