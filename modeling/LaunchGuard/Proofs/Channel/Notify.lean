/-
# Asking the running instance to show itself

A later launch connects until a connection is accepted and takes its request, which goes out whole on
that connection and on no other.  So the running instance sees one connection with the whole request,
or none at all if no attempt that the policy allows gets that far, and it raises its window once or not
at all.
-/
import LaunchGuard.Channel.Client
import LaunchGuard.Proofs.Channel.Attempts
import LaunchGuard.Proofs.Channel.Service

namespace LaunchGuard

namespace Peer

variable {p : Peer} {k : Nat}

/-- The peer accepts the connect of an attempt and takes a request on it. -/
def Takes (p : Peer) (k : Nat) : Prop := p.refusals k = none ∧ p.breaks k = none

lemma takes_of_sending (h : p.sending k = .succeeded ()) : p.Takes k := by
  rw [sending] at h
  split at h
  · cases h
  · next haccepted =>
    split at h
    · cases h
    · next htaken => exact ⟨haccepted, htaken⟩

lemma value?_sending_eq_none_iff : (p.sending k).value? = none ↔ ¬p.Takes k := by
  constructor
  · rintro hnone ⟨haccepted, htaken⟩
    rw [sending, haccepted, htaken] at hnone
    cases hnone
  · intro hnot
    by_contra hsome
    obtain ⟨_, hsent⟩ := Attempt.exists_eq_succeeded_of_value?_ne_none hsome
    exact hnot (takes_of_sending hsent)

end Peer

namespace Client

variable {policy : RetryPolicy} {peer : Peer} {r : Nat}

/-- The request goes out on the first connection that takes it. -/
lemma notify_of_takes (addr : String) (hr : r < policy.attempts)
    (hbefore : ∀ k, 1 ≤ k → k ≤ r → ¬peer.Takes k) (htakes : peer.Takes (r + 1)) :
    (notify addr policy peer).value = ⟨.delivered (r + 1), [Request.showWindow.wire]⟩ := by
  have hfail : ∀ i, 1 ≤ i → i < 1 + r → (peer.sending i).value? = none :=
    fun i h₁ h₂ => Peer.value?_sending_eq_none_iff.2 (hbefore i h₁ (by omega))
  have hsuccess : peer.sending (1 + r) = .succeeded () := by
    rw [Nat.add_comm, Peer.sending, htakes.1, htakes.2]
  rw [notify]
  simp only [Logged.bind_value, Attempt.tryAll,
    Attempt.value_tryFrom_of_success policy.attempts hr hfail hsuccess, Nat.add_comm 1 r]
  rfl

/-- If no connection takes the request, nothing goes out. -/
lemma notify_of_none_takes (addr : String)
    (hnone : ∀ k, 1 ≤ k → k ≤ policy.attempts → ¬peer.Takes k) :
    (notify addr policy peer).value = ⟨.unreachable policy.attempts, []⟩ := by
  have hfail : ∀ i, 1 ≤ i → i < 1 + policy.attempts → (peer.sending i).value? = none :=
    fun i h₁ h₂ => Peer.value?_sending_eq_none_iff.2 (hnone i h₁ (by omega))
  rw [notify]
  simp only [Logged.bind_value, Attempt.tryAll,
    Attempt.value_tryFrom_of_failures policy.attempts hfail]
  rfl

/-- The request goes out once, if a connection within the policy takes it, and else not at all. -/
lemma notify_delivers_or_not (addr : String) (policy : RetryPolicy) (peer : Peer) :
    (∃ k, 1 ≤ k ∧ k ≤ policy.attempts ∧ peer.Takes k) ∧
        (∃ k, (notify addr policy peer).value = ⟨.delivered k, [Request.showWindow.wire]⟩) ∨
      (¬∃ k, 1 ≤ k ∧ k ≤ policy.attempts ∧ peer.Takes k) ∧
        (notify addr policy peer).value = ⟨.unreachable policy.attempts, []⟩ := by
  rcases Attempt.exists_first_success peer.sending 1 policy.attempts with
    ⟨r, _, hr, hsuccess, hbefore⟩ | hnone
  · have htakes : peer.Takes (r + 1) := by
      rw [Nat.add_comm]
      exact Peer.takes_of_sending hsuccess
    refine .inl ⟨⟨r + 1, by omega, hr, htakes⟩, r + 1, notify_of_takes addr hr ?_ htakes⟩
    exact fun k h₁ h₂ => Peer.value?_sending_eq_none_iff.1 (hbefore k h₁ (by omega))
  · have hnot : ∀ k, 1 ≤ k → k ≤ policy.attempts → ¬peer.Takes k :=
      fun k h₁ h₂ => Peer.value?_sending_eq_none_iff.1 (hnone k h₁ (by omega))
    exact .inr ⟨fun ⟨k, h₁, h₂, h⟩ => hnot k h₁ h₂ h, notify_of_none_takes addr hnot⟩

end Client

namespace Server

end Server

end LaunchGuard
