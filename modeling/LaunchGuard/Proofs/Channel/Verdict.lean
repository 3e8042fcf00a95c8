/-
# The verdict on a payload

A payload is a request exactly if it starts with the command of that request.  No payload starts
with two commands, so it does not matter which of them is looked for first.

What a payload asks for is told by its first bytes alone: by the command among them, whatever comes
behind it, and for a payload without a command by the bytes that its printable form shows.  So a
payload of any length meets the same verdict, down to the text of the rejection, after it has been
cut to the bytes that the running instance reads.
-/
import Mathlib.Tactic.Lemma
import LaunchGuard.Channel.Server
import LaunchGuard.Message
import LaunchGuard.Proofs.Message.Printable

namespace LaunchGuard.Request

variable {payload : List UInt8}

/-! ### Commands -/

lemma wire_ne_nil (r : Request) : r.wire ≠ [] := by
  cases r <;> decide

lemma length_wire_le (r : Request) : r.wire.length ≤ 13 := by
  cases r <;> decide

/-- A payload starts with the command of one request at most. -/
lemma eq_of_wire_prefixes {r r' : Request} (h : r.wire <+: payload)
    (h' : r'.wire <+: payload) : r = r' := by
  have hcases : r.wire <+: r'.wire ∨ r'.wire <+: r.wire := List.prefix_or_prefix_of_prefix h h'
  revert hcases
  cases r <;> cases r' <;> decide

/-- A payload is a request exactly if it starts with its command. -/
lemma parse_eq_ok_iff {r : Request} :
    parse payload = .ok r ↔ r.wire <+: payload := by
  -- the tests are made in the order of the program: nothing, the window, the owner
  rw [parse]
  split
  · rename_i h
    rw [List.isEmpty_iff] at h
    rw [h, List.prefix_nil]
    exact ⟨nofun, fun hr => absurd hr (wire_ne_nil r)⟩
  split
  · rename_i h
    rw [List.isPrefixOf_iff_prefix] at h
    rw [Except.ok.injEq]
    exact ⟨fun hr => hr ▸ h, fun hr => eq_of_wire_prefixes h hr⟩
  split
  · rename_i h
    rw [List.isPrefixOf_iff_prefix] at h
    rw [Except.ok.injEq]
    exact ⟨fun hr => hr ▸ h, fun hr => eq_of_wire_prefixes h hr⟩
  · rename_i _ hs ho
    rw [List.isPrefixOf_iff_prefix] at hs ho
    refine ⟨nofun, fun hr => ?_⟩
    cases r with
    | showWindow => exact absurd hr hs
    | ownerUser => exact absurd hr ho

/-- A payload is rejected as empty if it has no bytes, and with its printable form if it has some but
starts with no command. -/
lemma parse_eq_error_iff {f : MessageFault} :
    parse payload = .error f ↔ payload = [] ∧ f = .empty ∨
      payload ≠ [] ∧ (∀ r : Request, ¬r.wire <+: payload) ∧
        f = .unknownRequest (printable payload) := by
  by_cases hnil : payload = []
  · subst hnil
    have hempty : parse [] = .error .empty := rfl
    rw [hempty, Except.error.injEq, eq_comm]
    simp
  have hne : payload.isEmpty = false := by simpa using hnil
  by_cases hknown : ∃ r : Request, r.wire <+: payload
  · obtain ⟨r, hr⟩ := hknown
    rw [parse_eq_ok_iff.2 hr]
    simp only [hnil, false_and, false_or, reduceCtorEq, false_iff, not_and]
    exact fun _ hnone => absurd hr (hnone r)
  · have hnone : ∀ r : Request, ¬r.wire <+: payload := not_exists.1 hknown
    have hunknown : parse payload = .error (.unknownRequest (printable payload)) := by
      simp [parse, hne, List.isPrefixOf_iff_prefix, hnone]
    rw [hunknown, Except.error.injEq, eq_comm]
    simp [hnil, hnone]

/-- The first bytes of a payload, if they are long enough for a command, tell as much as all of
it. -/
lemma wire_prefix_take_iff {r : Request} {n : Nat} (hn : 13 ≤ n) :
    r.wire <+: payload.take n ↔ r.wire <+: payload := by
  rw [List.prefix_take_iff]
  have hlen := r.length_wire_le
  exact ⟨fun h => h.1, fun h => ⟨h, by omega⟩⟩

/-! ### Verdicts -/

/-- The verdict on a payload if the commands are looked for in the given order. -/
def parseInOrder (order : List Request) (payload : List UInt8) : Except MessageFault Request :=
  if payload.isEmpty then .error .empty
  else match order.find? (·.wire.isPrefixOf payload) with
    | some r => .ok r
    | none => .error (.unknownRequest (printable payload))

/-- The order does not matter, as long as no command is left out. -/
lemma parseInOrder_eq_parse {order : List Request} (hall : ∀ r, r ∈ order) :
    parseInOrder order payload = parse payload := by
  cases hp : parse payload with
  | ok r =>
    have hr := parse_eq_ok_iff.1 hp
    have hne : payload.isEmpty = false := by
      rw [List.isEmpty_eq_false_iff]
      rintro rfl
      exact wire_ne_nil r (List.prefix_nil.1 hr)
    cases hfind : order.find? (·.wire.isPrefixOf payload) with
    | none => exact absurd (List.isPrefixOf_iff_prefix.2 hr) (List.find?_eq_none.1 hfind r (hall r))
    | some r' =>
      have hfits := List.find?_some hfind
      have hr' := List.isPrefixOf_iff_prefix.1 hfits
      simp [parseInOrder, hne, hfind, eq_of_wire_prefixes hr' hr]
  | error f =>
    rcases parse_eq_error_iff.1 hp with ⟨rfl, rfl⟩ | ⟨hnil, hnone, rfl⟩
    · rfl
    · have hfind : order.find? (·.wire.isPrefixOf payload) = none := by
        simp [List.find?_eq_none, hnone]
      simp [parseInOrder, hnil, hfind]

/-- A cut that leaves the bytes of the printable form leaves the verdict as it is. -/
lemma parse_take {n : Nat} (hn : shownBytes ≤ n) : parse (payload.take n) = parse payload := by
  have hlong : 13 ≤ n := Nat.le_trans (by decide) hn
  have hpos : n ≠ 0 := by omega
  cases hp : parse payload with
  | ok r => rwa [parse_eq_ok_iff, wire_prefix_take_iff hlong, ← parse_eq_ok_iff]
  | error f =>
    rw [parse_eq_error_iff] at hp ⊢
    simpa only [List.take_eq_nil_iff, hpos, false_or, ne_eq, wire_prefix_take_iff hlong,
      printable_take hn] using hp

/-- **Classification by prefix.**  A payload is a request exactly if it starts with the command of
that request, and as it starts with one command at most, it does not matter in which order the
commands are looked for.  All other payloads are rejected: as empty if there are no bytes, and
otherwise with the printable form.  Whatever follows a command does not matter, nor does it if a
payload is cut, as long as 32 bytes remain: the verdict stays the same, and so does the text of a
rejection.  So it is the verdict of the running instance, too, which cuts payloads at 256 bytes. -/
theorem parse_goes_by_prefix (payload : List UInt8) :
    (∀ r, parse payload = .ok r ↔ r.wire <+: payload) ∧
    (∀ r r' : Request, r.wire <+: payload → r'.wire <+: payload → r = r') ∧
    (∀ order, (∀ r, r ∈ order) → parseInOrder order payload = parse payload) ∧
    (∀ f, parse payload = .error f ↔ payload = [] ∧ f = .empty ∨
      payload ≠ [] ∧ (∀ r : Request, ¬r.wire <+: payload) ∧
        f = .unknownRequest (printable payload)) ∧
    (∀ (r : Request) rest, parse (r.wire ++ rest) = .ok r) ∧
    (∀ n, 32 ≤ n → parse (payload.take n) = parse payload) ∧
    Server.request (.payload payload) = (parse payload).mapError .rejected ∧
    (∀ r rest, parse payload = .ok r → parse (payload ++ rest) = .ok r) := by
  refine ⟨fun r => parse_eq_ok_iff, fun r r' => eq_of_wire_prefixes,
    fun order => parseInOrder_eq_parse, fun f => parse_eq_error_iff,
    fun r rest => parse_eq_ok_iff.2 (List.prefix_append _ _), fun n => parse_take, ?_, ?_⟩
  · have hlimit : shownBytes ≤ messageLimit := by decide
    rw [Server.request, parse_take hlimit]
  · intro r rest h
    have hcommand := parse_eq_ok_iff.1 h
    exact parse_eq_ok_iff.2 (hcommand.trans (List.prefix_append _ _))

end LaunchGuard.Request
