/-
# Trying until the first success

Two kinds of failures use up one budget: a connect may be refused, and what is done on a connection
may fail.  Whatever the script says, the attempts end at the first one that succeeds, or when the
budget is used up.  The number of that attempt decides everything else: the connects are those up to
there, something is done once on each of them that is accepted, and each of them that fails leaves
one entry with its number.
-/
import LaunchGuard.Proofs.Channel.Attempts

namespace LaunchGuard.Attempt

variable {α : Type}

/-- The entry that an attempt leaves behind if it fails. -/
def failureLine? (request : Request) (addr : String) (k total : Nat) : Attempt α → Option Entry
  | refused cause => some ⟨.debug, .client, refusal request addr k total cause⟩
  | failed cause => some ⟨.debug, .client, failure request k total cause⟩
  | succeeded _ => none

/-- The entries of those of the attempts `k`, …, `k + n - 1` that fail, in their order. -/
def failureLines (request : Request) (addr : String) (total : Nat) (script : Nat → Attempt α)
    (k n : Nat) : List Entry :=
  (List.range' k n).filterMap fun i => (script i).failureLine? request addr i total

section Script

variable {request : Request} {addr : String} {script : Nat → Attempt α}

lemma failureLines_succ (total k n : Nat) :
    failureLines request addr total script k (n + 1) =
      ((script k).failureLine? request addr k total).toList ++
        failureLines request addr total script (k + 1) n := by
  rw [failureLines, List.range'_succ, List.filterMap_cons, failureLines]
  cases (script k).failureLine? request addr k total <;> rfl

/-! ### What a run comes to -/

/-- The run succeeds with the first success that is within its attempts. -/
lemma success_tryFrom_eq_some_iff (total : Nat) {left k m : Nat} {v : α} :
    (tryFrom request addr total script left k).value.success = some (v, m) ↔
      k ≤ m ∧ m < k + left ∧ script m = succeeded v ∧
        ∀ i, k ≤ i → i < m → (script i).value? = none := by
  rcases exists_first_success script k left with ⟨r, a, hr, ha, hbefore⟩ | hnone
  · rw [value_tryFrom_of_success total hr hbefore ha]
    constructor
    · intro h
      cases h
      exact ⟨by omega, by omega, ha, hbefore⟩
    · rintro ⟨hkm, -, hv, hfirst⟩
      -- two first successes are the same one
      have hm : m = k + r := by
        rcases Nat.lt_trichotomy m (k + r) with hlt | heq | hgt
        · have hnot := hbefore m hkm hlt
          rw [hv] at hnot
          cases hnot
        · exact heq
        · have hnot := hfirst (k + r) (by omega) hgt
          rw [ha] at hnot
          cases hnot
      rw [hm, ha] at hv
      cases hv
      rw [hm]
  · rw [value_tryFrom_of_failures total hnone]
    constructor
    · nofun
    · rintro ⟨hkm, hm, hv, -⟩
      have hnot := hnone m hkm hm
      rw [hv] at hnot
      cases hnot

/-- The run fails if all of its attempts do. -/
lemma success_tryFrom_eq_none_iff (total : Nat) {left k : Nat} :
    (tryFrom request addr total script left k).value.success = none ↔
      ∀ i, k ≤ i → i < k + left → (script i).value? = none := by
  rcases exists_first_success script k left with ⟨r, a, hr, ha, hbefore⟩ | hnone
  · rw [value_tryFrom_of_success total hr hbefore ha]
    constructor
    · nofun
    · intro hall
      have hnot := hall (k + r) (by omega) (by omega)
      rw [ha] at hnot
      cases hnot
  · rw [value_tryFrom_of_failures total hnone]
    exact ⟨fun _ => hnone, fun _ => rfl⟩

/-- Connects are made up to the success. -/
lemma connects_tryFrom_of_success (total : Nat) {left k m : Nat} {v : α}
    (h : (tryFrom request addr total script left k).value.success = some (v, m)) :
    k + (tryFrom request addr total script left k).value.connects = m + 1 := by
  obtain ⟨hkm, hm, hv, hfirst⟩ := (success_tryFrom_eq_some_iff total).1 h
  obtain ⟨r, rfl⟩ : ∃ r, m = k + r := ⟨m - k, by omega⟩
  rw [value_tryFrom_of_success total (by omega) hfirst hv]
  rfl

/-- Without a success as many connects are made as are left. -/
lemma connects_tryFrom_of_failure (total : Nat) {left k : Nat}
    (h : (tryFrom request addr total script left k).value.success = none) :
    (tryFrom request addr total script left k).value.connects = left := by
  rw [value_tryFrom_of_failures total ((success_tryFrom_eq_none_iff total).1 h)]

/-- Something is done once on each connection. -/
lemma calls_tryFrom (total left k : Nat) :
    (tryFrom request addr total script left k).value.calls =
      (List.range' k (tryFrom request addr total script left k).value.connects).countP
        fun i => (script i).connects := by
  induction left generalizing k with
  | zero => rfl
  | succ left ih =>
    rw [tryFrom]
    cases hs : script k with
    | refused cause => simp [ih, List.range'_succ, hs, Attempt.connects]
    | failed cause => simp [ih, List.range'_succ, hs, Attempt.connects]
    | succeeded v => simp [hs, Attempt.connects]

/-- Each attempt that is made and fails leaves its entry, and nothing else is logged. -/
lemma log_tryFrom (total left k : Nat) :
    (tryFrom request addr total script left k).log =
      failureLines request addr total script k
        (tryFrom request addr total script left k).value.connects := by
  induction left generalizing k with
  | zero => rfl
  | succ left ih =>
    rw [tryFrom]
    cases hs : script k with
    | refused cause => simp [ih, failureLines_succ, hs, failureLine?]
    | failed cause => simp [ih, failureLines_succ, hs, failureLine?]
    | succeeded v => simp [failureLines, hs, failureLine?]

/-- The attempt that succeeds leaves no entry. -/
lemma log_tryFrom_of_success (total : Nat) {left k r : Nat} {v : α} (hr : r < left)
    (hfail : ∀ i, k ≤ i → i < k + r → (script i).value? = none)
    (hsuccess : script (k + r) = succeeded v) :
    (tryFrom request addr total script left k).log =
      failureLines request addr total script k r := by
  rw [log_tryFrom, value_tryFrom_of_success total hr hfail hsuccess, failureLines,
    List.range'_concat, List.filterMap_append, Nat.one_mul, failureLines]
  simp [hsuccess, failureLine?]

end Script

/-! ### Refused connects, then failures, then success -/

/-- The script of `r` refused connects and an operation that fails the first `f` times that it is
called; each further call yields its number among the calls. -/
def failingFirst (r f : Nat) (refusal : Nat → Fault) (cause : Nat → String) (k : Nat) :
    Attempt Nat :=
  if k ≤ r then refused (refusal k)
  else if k ≤ r + f then failed (cause (k - r))
  else succeeded (k - r)

section FailingFirst

variable {r f : Nat} {refusal : Nat → Fault} {cause : Nat → String}

lemma value?_failingFirst_eq_none_iff {k : Nat} :
    (failingFirst r f refusal cause k).value? = none ↔ k ≤ r + f := by
  rw [failingFirst]
  split_ifs with h₁ h₂
  · exact iff_of_true rfl (by omega)
  · exact iff_of_true rfl h₂
  · exact iff_of_false nofun h₂

lemma failingFirst_of_lt {k : Nat} (h : r + f < k) :
    failingFirst r f refusal cause k = succeeded (k - r) := by
  rw [failingFirst, if_neg (by omega), if_neg (by omega)]

lemma connects_failingFirst (k : Nat) :
    (failingFirst r f refusal cause k).connects = decide (r < k) := by
  rw [failingFirst]
  split_ifs with h₁ h₂
  · simp [Attempt.connects, h₁]
  · simp [Attempt.connects, Nat.lt_of_not_le h₁]
  · simp [Attempt.connects, Nat.lt_of_not_le h₁]

/-- Of the first `n` attempts those after the refused ones get a connection. -/
lemma countP_connects_failingFirst (n : Nat) :
    ((List.range' 1 n).countP fun k => (failingFirst r f refusal cause k).connects) = n - r := by
  induction n with
  | zero => simp
  | succ n ih =>
    rw [List.range'_concat, List.countP_append, ih, List.countP_singleton, connects_failingFirst]
    by_cases h : r < 1 + 1 * n
    · rw [decide_eq_true h, if_pos rfl]
      omega
    · rw [decide_eq_false h, if_neg Bool.false_ne_true]
      omega

section Policy

variable (request : Request) (addr : String) (policy : RetryPolicy)

/-- As long as the budget allows it, the attempt after all failures succeeds. -/
lemma value_tryAll_failingFirst_of_lt (h : r + f < policy.attempts) :
    (tryAll request addr policy (failingFirst r f refusal cause)).value =
      ⟨some (f + 1, r + f + 1), r + f + 1, f + 1⟩ := by
  have hfail : ∀ i, 1 ≤ i → i < 1 + (r + f) →
      (failingFirst r f refusal cause i).value? = none :=
    fun i _ hi => value?_failingFirst_eq_none_iff.2 (by omega)
  have hsuccess : failingFirst r f refusal cause (1 + (r + f)) = succeeded (f + 1) := by
    rw [failingFirst_of_lt (by omega), show 1 + (r + f) - r = f + 1 by omega]
  rw [tryAll, value_tryFrom_of_success policy.attempts h hfail hsuccess,
    countP_connects_failingFirst, Nat.add_comm 1, Nat.add_sub_cancel_left]

/-- Otherwise the budget is used up. -/
lemma value_tryAll_failingFirst_of_le (h : policy.attempts ≤ r + f) :
    (tryAll request addr policy (failingFirst r f refusal cause)).value =
      ⟨none, policy.attempts, policy.attempts - r⟩ := by
  have hfail : ∀ i, 1 ≤ i → i < 1 + policy.attempts →
      (failingFirst r f refusal cause i).value? = none :=
    fun i _ hi => value?_failingFirst_eq_none_iff.2 (by omega)
  rw [tryAll, value_tryFrom_of_failures policy.attempts hfail, countP_connects_failingFirst]

end Policy

end FailingFirst

/-- **The attempts.**  Let a policy allow some attempts, zero counting as one.  Whatever the script
says, the attempts come to the first success among those that are allowed, with its value and its
number, and to nothing if there is none.

* Connects are made up to that success, or as many as are allowed.
* Something is done once on each connection among them, and so never after the success.
* Each of these attempts that fails leaves one entry with its number, in their order, and there are
  no other entries.

So after `r` refused connects and `f` failures on a connection, the next attempt succeeds if it is
allowed; otherwise what is done on connections is done on all attempts but the refused ones. -/
theorem tryAll_ends_at_first_success (request : Request) (addr : String) (policy : RetryPolicy)
    (script : Nat → Attempt α) :
    let allowed := max 1 policy.maxAttempts.toNat
    let run := tryAll request addr policy script
    let tried := run.value
    (∀ v k, tried.success = some (v, k) ↔
      1 ≤ k ∧ k ≤ allowed ∧ script k = succeeded v ∧
        ∀ i, 1 ≤ i → i < k → (script i).value? = none) ∧
    (tried.success = none ↔ ∀ i, 1 ≤ i → i ≤ allowed → (script i).value? = none) ∧
    (∀ v k, tried.success = some (v, k) → tried.connects = k) ∧
    (tried.success = none → tried.connects = allowed) ∧
    (tried.calls = (List.range' 1 tried.connects).countP fun i => (script i).connects) ∧
    (run.log = (List.range' 1 tried.connects).filterMap fun i =>
      (script i).failureLine? request addr i allowed) ∧
    ∀ (r f : Nat) (refusal : Nat → Fault) (cause : Nat → String),
      let tried := (tryAll request addr policy (failingFirst r f refusal cause)).value
      (r + f < allowed → tried = ⟨some (f + 1, r + f + 1), r + f + 1, f + 1⟩) ∧
      (allowed ≤ r + f → tried = ⟨none, allowed, allowed - r⟩) := by
  intro allowed run tried
  have hsome : ∀ v k, tried.success = some (v, k) ↔ _ :=
    fun v k => success_tryFrom_eq_some_iff policy.attempts
  have hnone : tried.success = none ↔ _ := success_tryFrom_eq_none_iff policy.attempts
  refine ⟨fun v k => ?_, ?_, fun v k h => ?_, connects_tryFrom_of_failure policy.attempts, ?_, ?_,
    fun r f refusal cause => ?_⟩
  · rw [hsome, Nat.add_comm 1, Nat.lt_succ_iff]
    rfl
  · simp only [hnone, Nat.add_comm 1, Nat.lt_succ_iff]
    rfl
  · have hk : 1 + tried.connects = k + 1 := connects_tryFrom_of_success policy.attempts h
    omega
  · exact calls_tryFrom policy.attempts policy.attempts 1
  · exact log_tryFrom policy.attempts policy.attempts 1
  · exact ⟨value_tryAll_failingFirst_of_lt request addr policy,
      value_tryAll_failingFirst_of_le request addr policy⟩

end LaunchGuard.Attempt
