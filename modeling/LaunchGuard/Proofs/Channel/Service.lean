/-
# Serving connections

Each connection is served on its own: what it leads to depends on what it brings and on the user of
the running instance, and on no other connection.  Only a payload that starts with the command to
show the window reaches the host, and only one that starts with the question for the owner is
answered, with the one reply that names the user.  So the raises of any number of connections can be
counted off their payloads, and the order in which they are served does not matter.
-/
import Mathlib.Data.List.Perm.Basic
import Mathlib.Logic.Function.Iterate
import LaunchGuard.Channel.Server
import LaunchGuard.Proofs.Channel.Verdict
import LaunchGuard.Proofs.Message.Cut

namespace LaunchGuard

/-- Whether a connection brings a payload that starts with the command of a request. -/
def Arrival.asks (r : Request) : Arrival → Bool
  | .payload bytes => r.wire.isPrefixOf bytes
  | .silence => false
  | .reset => false

/-- A connection asks one thing at most. -/
lemma Arrival.eq_of_asks {a : Arrival} {r r' : Request} (h : a.asks r = true)
    (h' : a.asks r' = true) : r = r' := by
  cases a with
  | payload bytes =>
    exact Request.eq_of_wire_prefixes (List.isPrefixOf_iff_prefix.1 h)
      (List.isPrefixOf_iff_prefix.1 h')
  | silence => cases h
  | reset => cases h

namespace Server

variable (user : Option String)

/-- The server takes a connection for a request exactly if it brings the command. -/
lemma request_eq_ok_iff {a : Arrival} {r : Request} : request a = .ok r ↔ a.asks r = true := by
  cases a with
  | payload bytes =>
    have hlimit : 13 ≤ messageLimit := by decide
    rw [Arrival.asks, List.isPrefixOf_iff_prefix, ← Request.wire_prefix_take_iff hlimit,
      ← Request.parse_eq_ok_iff, request]
    cases Request.parse (bytes.take messageLimit) <;> simp [Except.mapError]
  | silence => simp [request, Arrival.asks]
  | reset => simp [request, Arrival.asks]

/-- The host is asked to raise its window by the connections that ask for it. -/
lemma raises_serve (a : Arrival) : (serve user a).value.raises = a.asks .showWindow := by
  cases hr : request a with
  | error cause =>
    have hnot : a.asks .showWindow ≠ true := by
      rw [Ne, ← request_eq_ok_iff, hr]
      nofun
    rw [serve, hr, Bool.eq_false_iff.2 hnot]
    rfl
  | ok r =>
    have hasks := request_eq_ok_iff.1 hr
    rw [serve, hr]
    cases r with
    | showWindow => exact hasks.symm
    | ownerUser =>
      have hnot : a.asks .showWindow ≠ true := fun h => nomatch Arrival.eq_of_asks h hasks
      rw [Bool.eq_false_iff.2 hnot]
      cases user <;> rfl

/-- The reply goes to the connections that ask for the owner, if the user is known. -/
lemma reply_serve (a : Arrival) :
    (serve user a).value.reply =
      if a.asks .ownerUser then user.elim [] fun name => (Reply.owner name).encode else [] := by
  cases hr : request a with
  | error cause =>
    have hnot : a.asks .ownerUser ≠ true := by
      rw [Ne, ← request_eq_ok_iff, hr]
      nofun
    rw [serve, hr, if_neg hnot]
    rfl
  | ok r =>
    have hasks := request_eq_ok_iff.1 hr
    rw [serve, hr]
    cases r with
    | showWindow =>
      have hnot : a.asks .ownerUser ≠ true := fun h => nomatch Arrival.eq_of_asks h hasks
      rw [if_neg hnot]
      rfl
    | ownerUser =>
      rw [if_pos hasks]
      cases user <;> rfl

/-- Bytes go back exactly to who asks for a known owner. -/
lemma reply_serve_ne_nil_iff (a : Arrival) :
    (serve user a).value.reply ≠ [] ↔ a.asks .ownerUser = true ∧ user ≠ none := by
  rw [reply_serve]
  cases user with
  | none => simp
  | some name =>
    have hne : (Reply.owner name).encode ≠ [] :=
      List.ne_nil_of_length_pos (Reply.length_encode_owner name).1
    simp [hne]

/-! ### Runs of connections -/

lemma step_value (h : Host) (peer : String) (a : Arrival) :
    (step user h peer a).value =
      ((serve user a).value, if a.asks .showWindow then h.raise.value else h) := by
  rw [← raises_serve user a, step, Logged.bind_value]
  cases (serve user a).value.raises with
  | false => cases (serve user a).value.outcome <;> rfl
  | true => cases (serve user a).value.outcome <;> rfl

@[simp] lemma raiseCount_raise (h : Host) : h.raise.value.raiseCount = h.raiseCount + 1 := by
  rw [Host.raise]
  cases h.queued <;> rfl

/-- Each connection of a run is served as if it were the only one. -/
lemma served_run (h : Host) (conns : List (String × Arrival)) :
    (run user h conns).value.1 = conns.map fun c => (serve user c.2).value := by
  induction conns generalizing h with
  | nil => rfl
  | cons c conns ih =>
    obtain ⟨peer, a⟩ := c
    rw [run, List.map_cons]
    simp only [Logged.bind_value, Logged.pure_value, step_value, ih]

/-- The host after a run has raised its window once for each connection that asked for it. -/
lemma host_run (h : Host) (conns : List (String × Arrival)) :
    (run user h conns).value.2 =
      (fun h => (Host.raise h).value)^[conns.countP fun c => c.2.asks .showWindow] h := by
  induction conns generalizing h with
  | nil => rfl
  | cons c conns ih =>
    obtain ⟨peer, a⟩ := c
    rw [run]
    simp only [Logged.bind_value, Logged.pure_value, step_value, ih, List.countP_cons]
    split
    · rw [Function.iterate_succ_apply]
    · rfl

lemma raiseCount_iterate (h : Host) (n : Nat) :
    ((fun h => (Host.raise h).value)^[n] h).raiseCount = h.raiseCount + n := by
  induction n generalizing h with
  | zero => rfl
  | succ n ih =>
    rw [Function.iterate_succ_apply, ih, raiseCount_raise]
    omega

/-- **Isolation.**  In a run over any connections, in any order, each of them is served as if it
were alone; the host is asked to raise its window once for each connection whose payload starts with
the command for it; and exactly the connections whose payload starts with the question for the owner
are answered, with the reply that names the user, if the user is known.  No connection leads to
both.  In another order the same connections lead to the same, and leave the host the same. -/
theorem run_isolates (h : Host) (conns : List (String × Arrival)) :
    (run user h conns).value.1 = (conns.map fun c => (serve user c.2).value) ∧
    (run user h conns).value.2.raiseCount =
      h.raiseCount + conns.countP (fun c => c.2.asks .showWindow) ∧
    (∀ c ∈ conns,
      (serve user c.2).value.raises = c.2.asks .showWindow ∧
      ((serve user c.2).value.reply ≠ [] ↔ c.2.asks .ownerUser = true ∧ user ≠ none) ∧
      (∀ name, user = some name → c.2.asks .ownerUser = true →
        (serve user c.2).value.reply = (Reply.owner name).encode ∧
        1 ≤ (Reply.owner name).encode.length ∧ (Reply.owner name).encode.length ≤ 256) ∧
      ¬((serve user c.2).value.raises = true ∧ (serve user c.2).value.reply ≠ [])) ∧
    (∀ conns', conns.Perm conns' →
      (conns.zip (run user h conns).value.1).Perm (conns'.zip (run user h conns').value.1) ∧
      (run user h conns).value.2 = (run user h conns').value.2) := by
  refine ⟨served_run user h conns, ?_, fun c _ => ⟨raises_serve user c.2,
    reply_serve_ne_nil_iff user c.2, ?_, ?_⟩, fun conns' hperm => ⟨?_, ?_⟩⟩
  · rw [host_run, raiseCount_iterate]
  · rintro name rfl hasks
    obtain ⟨hpos, hle⟩ := Reply.length_encode_owner name
    exact ⟨by rw [reply_serve, if_pos hasks]; rfl, hpos, hle⟩
  · rintro ⟨hraises, hreply⟩
    rw [raises_serve] at hraises
    have hasks := ((reply_serve_ne_nil_iff user c.2).1 hreply).1
    exact nomatch Arrival.eq_of_asks hraises hasks
  · rw [served_run, served_run, ← List.map_prod_left_eq_zip, ← List.map_prod_left_eq_zip]
    exact hperm.map _
  · rw [host_run, host_run, hperm.countP_eq]

end Server

end LaunchGuard
