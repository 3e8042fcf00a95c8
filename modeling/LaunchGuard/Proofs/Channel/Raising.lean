/-
# Requests to raise the window

The host counts the requests to raise its window and hands an event for each to the main loop, which
takes them one by one until it is gone.  Up to that moment every request has been received or is
still queued; from then on requests are only counted, and each that comes in vain is logged.  The
number that a request has in the log is the number of requests so far.
-/
import Mathlib.Data.List.Induction
import LaunchGuard.Host

namespace LaunchGuard.Host

/-! ### One step -/

lemma perform_raise (h : Host) : h.perform .raise =
    ⟨(.raised, ⟨h.raiseCount + 1, h.queued.map (· + 1)⟩),
      ⟨.info, .host, "Raising main window (request #" ++ toString (h.raiseCount + 1) ++ ")"⟩ ::
        if h.queued = none then [⟨.warn, .host, "Main loop is gone, raise request dropped"⟩]
        else []⟩ := by
  obtain ⟨count, queued⟩ := h
  cases queued <;> rfl

lemma perform_receive (h : Host) :
    h.perform .receive = ⟨(.received h.receive.1, h.receive.2), []⟩ := rfl

lemma perform_close (h : Host) :
    h.perform .close = ⟨(.closed h.queued.isSome, { h with queued := none }), []⟩ := rfl

/-! ### Runs of steps -/

lemma performAll_cons (h : Host) (s : Step) (rest : List Step) :
    h.performAll (s :: rest) =
      ⟨((h.perform s).value.1 :: ((h.perform s).value.2.performAll rest).value.1,
        ((h.perform s).value.2.performAll rest).value.2),
        (h.perform s).log ++ ((h.perform s).value.2.performAll rest).log⟩ := by
  show Logged.mk _ (_ ++ (_ ++ [])) = _
  rw [List.append_nil]
  rfl

/-- A run of steps from the start of a host. -/
def ran (steps : List Step) : Logged (List Answer × Host) := ({} : Host).performAll steps

lemma performAll_concat (h : Host) (steps : List Step) (s : Step) :
    h.performAll (steps ++ [s]) =
      ⟨((h.performAll steps).value.1 ++ [((h.performAll steps).value.2.perform s).value.1],
        ((h.performAll steps).value.2.perform s).value.2),
        (h.performAll steps).log ++ ((h.performAll steps).value.2.perform s).log⟩ := by
  induction steps generalizing h with
  | nil => simp [performAll_cons, performAll]
  | cons s' steps ih => simp [performAll_cons, ih]

/-- One more step adds its answer and its entries to those of a run. -/
lemma ran_concat (steps : List Step) (s : Step) :
    ran (steps ++ [s]) =
      ⟨((ran steps).value.1 ++ [((ran steps).value.2.perform s).value.1],
        ((ran steps).value.2.perform s).value.2),
        (ran steps).log ++ ((ran steps).value.2.perform s).log⟩ :=
  performAll_concat {} steps s

/-- How a host stands after some steps with some answers: all requests are counted, and as long as
there is a receiver they have been received or are queued. -/
structure Tally (steps : List Step) (answers : List Answer) (h : Host) : Prop where
  raiseCount_eq : h.raiseCount = steps.count .raise
  queued_of_open : .close ∉ steps → ∃ n, h.queued = some n ∧
    answers.count (.received .raiseRequested) + n = steps.count .raise
  queued_of_closed : .close ∈ steps → h.queued = none

namespace Tally

variable {steps : List Step} {answers : List Answer} {h : Host}

lemma start : Tally [] [] {} := ⟨rfl, fun _ => ⟨0, rfl, rfl⟩, nofun⟩

lemma queued_eq_none_iff (ht : Tally steps answers h) : h.queued = none ↔ .close ∈ steps := by
  refine ⟨fun hnone => ?_, ht.queued_of_closed⟩
  by_cases hclosed : .close ∈ steps
  · exact hclosed
  · obtain ⟨n, hqueued, -⟩ := ht.queued_of_open hclosed
    exact nomatch hnone.symm.trans hqueued

lemma received_of_queued {n : Nat} (ht : Tally steps answers h) (hq : h.queued = some n) :
    .close ∉ steps ∧ answers.count (.received .raiseRequested) + n = steps.count .raise := by
  have hopen : .close ∉ steps := fun hclosed => nomatch hq.symm.trans (ht.queued_of_closed hclosed)
  obtain ⟨m, hm, hsum⟩ := ht.queued_of_open hopen
  obtain rfl : n = m := Option.some.inj (hq.symm.trans hm)
  exact ⟨hopen, hsum⟩

/-- Every step keeps the tally. -/
lemma perform (ht : Tally steps answers h) (s : Step) :
    Tally (steps ++ [s]) (answers ++ [(h.perform s).value.1]) (h.perform s).value.2 := by
  have hcount := ht.raiseCount_eq
  cases s with
  | raise =>
    rw [perform_raise]
    refine ⟨by simp [hcount], fun hnot => ?_, fun hmem => ?_⟩
    · obtain ⟨n, hqueued, hsum⟩ := ht.queued_of_open (by simpa using hnot)
      exact ⟨n + 1, by simp [hqueued], by simp; omega⟩
    · simpa using ht.queued_of_closed (by simpa using hmem)
  | receive =>
    rcases hq : h.queued with _ | _ | n
    · have hclosed := ht.queued_eq_none_iff.1 hq
      simp only [perform_receive, receive, hq]
      exact ⟨by simp [hcount], fun hnot => absurd (by simp [hclosed]) hnot, fun _ => hq⟩
    · obtain ⟨hopen, hsum⟩ := ht.received_of_queued hq
      simp only [perform_receive, receive, hq]
      exact ⟨by simp [hcount], fun _ => ⟨0, hq, by simpa using hsum⟩,
        fun hmem => absurd (by simpa using hmem) hopen⟩
    · obtain ⟨hopen, hsum⟩ := ht.received_of_queued hq
      simp only [perform_receive, receive, hq]
      exact ⟨by simp [hcount], fun _ => ⟨n, rfl, by simp; omega⟩,
        fun hmem => absurd (by simpa using hmem) hopen⟩
  | close =>
    rw [perform_close]
    exact ⟨by simp [hcount], fun hnot => absurd (by simp) hnot, fun _ => rfl⟩

/-- What a look for an event finds can be told from the steps and answers so far. -/
lemma answer_receive (ht : Tally steps answers h) : (h.perform .receive).value.1 =
    .received (if .close ∈ steps then .closed
      else if answers.count (.received .raiseRequested) = steps.count .raise then .nothing
      else .raiseRequested) := by
  rcases hq : h.queued with _ | _ | n
  · simp [perform_receive, receive, hq, ht.queued_eq_none_iff.1 hq]
  · obtain ⟨hopen, hsum⟩ := ht.received_of_queued hq
    rw [Nat.add_zero] at hsum
    simp [perform_receive, receive, hq, hopen, hsum]
  · obtain ⟨hopen, hsum⟩ := ht.received_of_queued hq
    have hmore : answers.count (.received .raiseRequested) ≠ steps.count .raise := by omega
    simp [perform_receive, receive, hq, hopen, hmore]

/-- A close tells whether it is the first. -/
lemma answer_close (ht : Tally steps answers h) :
    (h.perform .close).value.1 = .closed (.close ∉ steps) := by
  rw [perform_close]
  by_cases hclosed : .close ∈ steps
  · simp [ht.queued_of_closed hclosed, hclosed]
  · obtain ⟨n, hqueued, -⟩ := ht.queued_of_open hclosed
    simp [hqueued, hclosed]

end Tally

/-- So every run from the start of a host ends with the tally. -/
lemma tally_ran (steps : List Step) : Tally steps (ran steps).value.1 (ran steps).value.2 := by
  induction steps using List.reverseRecOn with
  | nil => exact .start
  | append_singleton steps s ih =>
    rw [ran_concat]
    exact ih.perform s

/-- **No request is lost or made up.**  At every time of any run, all requests to raise the window
have been counted, and as long as there is a receiver, those it has received and those still queued
are together all of them.  The next request gets the next number in the log, and is logged as given
up in addition if and only if the receiver was closed before.  The next look for an event finds one
unless all requests so far have been received, and never after a close; and a close tells whether it
is the first. -/
theorem run_loses_no_raise (steps : List Step) :
    let raised := steps.count .raise
    let received := (ran steps).value.1.count (.received .raiseRequested)
    (ran steps).value.2.raiseCount = raised ∧
    (.close ∉ steps →
      ∃ queued, (ran steps).value.2.queued = some queued ∧ received + queued = raised) ∧
    (ran (steps ++ [.raise])).value.1 = (ran steps).value.1 ++ [.raised] ∧
    (ran (steps ++ [.raise])).log = (ran steps).log ++
      ⟨.info, .host, "Raising main window (request #" ++ toString (raised + 1) ++ ")"⟩ ::
        (if .close ∈ steps then [⟨.warn, .host, "Main loop is gone, raise request dropped"⟩]
        else []) ∧
    (ran (steps ++ [.receive])).value.1 = (ran steps).value.1 ++
      [.received (if .close ∈ steps then .closed
        else if received = raised then .nothing else .raiseRequested)] ∧
    (ran (steps ++ [.receive])).log = (ran steps).log ∧
    (ran (steps ++ [.close])).value.1 = (ran steps).value.1 ++ [.closed (.close ∉ steps)] ∧
    (ran (steps ++ [.close])).log = (ran steps).log := by
  intro raised received
  have ht := tally_ran steps
  refine ⟨ht.raiseCount_eq, ht.queued_of_open, ?_, ?_, ?_, ?_, ?_, ?_⟩
  · simp [ran_concat, perform_raise]
  · simp [ran_concat, perform_raise, ht.raiseCount_eq, ht.queued_eq_none_iff, raised]
  · rw [ran_concat, ht.answer_receive]
  · simp [ran_concat, perform_receive]
  · rw [ran_concat, ht.answer_close]
  · simp [ran_concat, perform_close]

end LaunchGuard.Host
