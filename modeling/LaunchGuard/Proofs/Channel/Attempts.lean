/-
# What attempts come to

The attempts go through the script in order and stop at the first success.
-/
import Mathlib.Data.Nat.Find
import Mathlib.Tactic.Lemma
import LaunchGuard.Channel.Attempts

namespace LaunchGuard.Attempt

variable {α : Type} {request : Request} {addr : String}

/-- The value of an attempt that succeeds. -/
def value? : Attempt α → Option α
  | refused _ => none
  | failed _ => none
  | succeeded a => some a

/-- Whether an attempt gets a connection, on which something is then done. -/
def connects : Attempt α → Bool
  | refused _ => false
  | failed _ => true
  | succeeded _ => true

lemma exists_eq_succeeded_of_value?_ne_none {a : Attempt α} (h : a.value? ≠ none) :
    ∃ v, a = succeeded v := by
  cases a with
  | refused cause => exact absurd rfl h
  | failed cause => exact absurd rfl h
  | succeeded v => exact ⟨v, rfl⟩

/-- Among some attempts in a row there is a first one that succeeds, or none. -/
lemma exists_first_success (script : Nat → Attempt α) (k n : Nat) :
    (∃ r v, r < n ∧ script (k + r) = succeeded v ∧
      ∀ i, k ≤ i → i < k + r → (script i).value? = none) ∨
    ∀ i, k ≤ i → i < k + n → (script i).value? = none := by
  classical
  by_cases h : ∃ r, r < n ∧ (script (k + r)).value? ≠ none
  · obtain ⟨hr, hne⟩ := Nat.find_spec h
    obtain ⟨v, hv⟩ := exists_eq_succeeded_of_value?_ne_none hne
    refine .inl ⟨Nat.find h, v, hr, hv, fun i h₁ h₂ => ?_⟩
    by_contra hi
    have hbefore := Nat.find_min h (m := i - k) (by omega)
    rw [show k + (i - k) = i by omega] at hbefore
    exact hbefore ⟨by omega, hi⟩
  · refine .inr fun i h₁ h₂ => ?_
    by_contra hi
    refine h ⟨i - k, by omega, ?_⟩
    rwa [show k + (i - k) = i by omega]

/-- An attempt that succeeds after failures is the last one, and something was done on the
connections up to there. -/
lemma value_tryFrom_of_success (total : Nat) {script : Nat → Attempt α} {left k r : Nat} {a : α}
    (hr : r < left) (hfail : ∀ i, k ≤ i → i < k + r → (script i).value? = none)
    (hsuccess : script (k + r) = succeeded a) :
    (tryFrom request addr total script left k).value =
      ⟨some (a, k + r), r + 1, ((List.range' k r).countP fun i => (script i).connects) + 1⟩ := by
  induction r generalizing left k with
  | zero =>
    obtain ⟨left, rfl⟩ : ∃ n, left = n + 1 := ⟨left - 1, by omega⟩
    rw [Nat.add_zero] at hsuccess
    rw [tryFrom, hsuccess]
    rfl
  | succ r ih =>
    obtain ⟨left, rfl⟩ : ∃ n, left = n + 1 := ⟨left - 1, by omega⟩
    have hk := hfail k (by omega) (by omega)
    have hnext : k + 1 + r = k + (r + 1) := by omega
    have hrest := @ih left (k + 1) (by omega)
      (fun i h₁ h₂ => hfail i (by omega) (by omega)) (by rw [hnext, hsuccess])
    rw [List.range'_succ, List.countP_cons, tryFrom]
    cases hs : script k with
    | refused cause => simp [hrest, connects, hnext]
    | failed cause => simp [hrest, connects, hnext]
    | succeeded b => simp [hs, value?] at hk

/-- If no attempt succeeds, all that are left are made. -/
lemma value_tryFrom_of_failures (total : Nat) {script : Nat → Attempt α} {left k : Nat}
    (hfail : ∀ i, k ≤ i → i < k + left → (script i).value? = none) :
    (tryFrom request addr total script left k).value =
      ⟨none, left, (List.range' k left).countP fun i => (script i).connects⟩ := by
  induction left generalizing k with
  | zero => rfl
  | succ left ih =>
    have hk := hfail k (by omega) (by omega)
    have hrest := ih (k := k + 1) fun i h₁ h₂ => hfail i (by omega) (by omega)
    rw [List.range'_succ, List.countP_cons, tryFrom]
    cases hs : script k with
    | refused cause => simp [hrest, connects]
    | failed cause => simp [hrest, connects]
    | succeeded b => simp [hs, value?] at hk

lemma value?_connecting_eq_none_iff {refusals : Nat → Option Fault} {k : Nat} :
    (connecting refusals k).value? = none ↔ refusals k ≠ none := by
  cases h : refusals k <;> simp [connecting, h, value?]

/-- Refused connects leave nothing to be done on a connection. -/
lemma countP_connects_eq_zero {refusals : Nat → Option Fault} {k n : Nat}
    (h : ∀ i, k ≤ i → i < k + n → refusals i ≠ none) :
    ((List.range' k n).countP fun i => (connecting refusals i).connects) = 0 := by
  rw [List.countP_eq_zero]
  intro i hi
  obtain ⟨h₁, h₂⟩ := List.mem_range'_1.1 hi
  obtain ⟨cause, hc⟩ := Option.ne_none_iff_exists'.1 (h i h₁ h₂)
  simp [connecting, hc, connects]

/-- The connect of the attempt `k` is the first that is accepted, and the policy allows it. -/
structure ReachesAt (policy : RetryPolicy) (refusals : Nat → Option Fault) (k : Nat) : Prop where
  pos : 1 ≤ k
  allowed : k ≤ policy.attempts
  accepted : refusals k = none
  first : ∀ i, 1 ≤ i → i < k → refusals i ≠ none

/-- Whether the policy allows as many connects as it takes until one is accepted. -/
def Reaches (policy : RetryPolicy) (refusals : Nat → Option Fault) : Prop :=
  ∃ k, 1 ≤ k ∧ k ≤ policy.attempts ∧ refusals k = none

lemma ReachesAt.eq {policy : RetryPolicy} {refusals : Nat → Option Fault} {k m : Nat}
    (h : ReachesAt policy refusals k) (h' : ReachesAt policy refusals m) : k = m := by
  rcases Nat.lt_trichotomy k m with hlt | heq | hgt
  · exact absurd h.accepted (h'.first k h.pos hlt)
  · exact heq
  · exact absurd h'.accepted (h.first m h'.pos hgt)

section Connecting

variable (request : Request) (addr : String) {policy : RetryPolicy}
  {refusals : Nat → Option Fault} {k r : Nat}

/-- The first connect that is accepted ends the attempts. -/
lemma value_tryAll_of_reachesAt (h : ReachesAt policy refusals k) :
    (tryAll request addr policy (connecting refusals)).value = ⟨some ((), k), k, 1⟩ := by
  obtain ⟨r, rfl⟩ : ∃ r, k = 1 + r := ⟨k - 1, by have := h.pos; omega⟩
  have hr : r < policy.attempts := by
    have := h.allowed
    omega
  have hsuccess : connecting refusals (1 + r) = succeeded () := by rw [connecting, h.accepted]
  rw [tryAll, value_tryFrom_of_success policy.attempts hr
    (fun i h₁ h₂ => value?_connecting_eq_none_iff.2 (h.first i h₁ h₂)) hsuccess,
    countP_connects_eq_zero h.first, Nat.add_comm r 1]

/-- If every connect is refused, the policy is used up. -/
lemma value_tryAll_of_not_reaches (h : ¬Reaches policy refusals) :
    (tryAll request addr policy (connecting refusals)).value = ⟨none, policy.attempts, 0⟩ := by
  have hall : ∀ i, 1 ≤ i → i < 1 + policy.attempts → refusals i ≠ none :=
    fun i h₁ h₂ hnone => h ⟨i, h₁, by omega, hnone⟩
  rw [tryAll, value_tryFrom_of_failures policy.attempts
    (fun i h₁ h₂ => value?_connecting_eq_none_iff.2 (hall i h₁ h₂)), countP_connects_eq_zero hall]

/-- If the policy reaches an accepted connect, there is a first one. -/
lemma reaches_iff_exists_reachesAt : Reaches policy refusals ↔ ∃ k, ReachesAt policy refusals k := by
  constructor
  · rintro ⟨k, h₁, h₂, hfree⟩
    rcases exists_first_success (connecting refusals) 1 policy.attempts with
      ⟨r, _, hr, hsuccess, hbefore⟩ | hnone
    · refine ⟨1 + r, by omega, by omega, ?_,
        fun i h₁ h₂ => value?_connecting_eq_none_iff.1 (hbefore i h₁ h₂)⟩
      by_contra hrefused
      rw [← ne_eq, ← value?_connecting_eq_none_iff, hsuccess] at hrefused
      cases hrefused
    · exact absurd hfree (value?_connecting_eq_none_iff.1 (hnone k h₁ (by omega)))
  · rintro ⟨k, h⟩
    exact ⟨k, h.pos, h.allowed, h.accepted⟩

/-- After `r` refused connects the policy reaches an accepted one if it allows one more. -/
lemma reaches_iff_lt (hrefused : ∀ k, 1 ≤ k → k ≤ r → refusals k ≠ none)
    (haccepted : r < policy.attempts → refusals (r + 1) = none) :
    Reaches policy refusals ↔ r < policy.attempts := by
  constructor
  · rintro ⟨k, h₁, h₂, hfree⟩
    by_contra hr
    exact hrefused k h₁ (by omega) hfree
  · intro hr
    exact ⟨r + 1, by omega, hr, haccepted hr⟩

end Connecting

end LaunchGuard.Attempt
