/-
# Connecting until it works, asking once

Where an answer is expected, only the connecting is tried again.  The first connect that is accepted
is used for the exchange, whatever comes of it, and no connect is made after it.  So the log tells
two kinds of failures apart: one entry for each refused connect, and a warning if the exchange
failed.

For the question for the owner this means that it goes out on one connection at most, and that the
owner is known exactly if the bytes that come back are the marker and a name.
-/
import LaunchGuard.Proofs.Channel.Query
import LaunchGuard.Proofs.Channel.Retrying

namespace LaunchGuard

namespace Attempt

variable {α : Type}

/-- The entries of the first `n` connects, each of them refused. -/
def refusalLines (request : Request) (addr : String) (total : Nat) (cause : Nat → Fault) (n : Nat) :
    List Entry :=
  (List.range' 1 n).map fun k => ⟨.debug, .client, refusal request addr k total (cause k)⟩

/-- The entry of an exchange that failed. -/
def exchangeLines (request : Request) : Except String α → List Entry
  | .ok _ => []
  | .error cause => [⟨.warn, .client, request.command ++ " exchange failed: " ++ cause⟩]

section Refused

variable {request : Request} {addr : String} {policy : RetryPolicy} {refusals : Nat → Option Fault}
  {cause : Nat → Fault}

lemma failureLines_refused (total : Nat) {n : Nat}
    (h : ∀ k, 1 ≤ k → k ≤ n → refusals k = some (cause k)) :
    failureLines request addr total (connecting refusals) 1 n =
      refusalLines request addr total cause n := by
  rw [failureLines, refusalLines, ← List.filterMap_eq_map]
  refine List.filterMap_congr fun k hk => ?_
  obtain ⟨h₁, h₂⟩ := List.mem_range'_1.1 hk
  rw [connecting, h k h₁ (by omega)]
  rfl

variable (request addr)

/-- Nothing but the refused connects is logged before one is accepted. -/
lemma log_tryAll_of_accepted {r : Nat} (hr : r < policy.attempts)
    (hrefused : ∀ k, 1 ≤ k → k ≤ r → refusals k = some (cause k))
    (haccepted : refusals (r + 1) = none) :
    (tryAll request addr policy (connecting refusals)).log =
      refusalLines request addr policy.attempts cause r := by
  have hfail : ∀ i, 1 ≤ i → i < 1 + r → (connecting refusals i).value? = none := by
    intro i h₁ h₂
    rw [connecting, hrefused i h₁ (by omega)]
    rfl
  have hsuccess : connecting refusals (1 + r) = succeeded () := by
    rw [connecting, Nat.add_comm, haccepted]
  rw [tryAll, log_tryFrom_of_success policy.attempts hr hfail hsuccess,
    failureLines_refused policy.attempts hrefused]

lemma log_tryAll_of_refused
    (hrefused : ∀ k, 1 ≤ k → k ≤ policy.attempts → refusals k = some (cause k)) :
    (tryAll request addr policy (connecting refusals)).log =
      refusalLines request addr policy.attempts cause policy.attempts := by
  have hnot : ¬Reaches policy refusals := by
    rintro ⟨k, h₁, h₂, hfree⟩
    rw [hrefused k h₁ h₂] at hfree
    cases hfree
  have hvalue := value_tryAll_of_not_reaches request addr hnot
  rw [tryAll] at hvalue ⊢
  rw [log_tryFrom, hvalue, failureLines_refused policy.attempts hrefused]

/-! ### One exchange -/

lemma log_tryThen (exchange : Nat → Except String α) :
    (tryThen request addr policy refusals exchange).log =
      (tryAll request addr policy (connecting refusals)).log ++
        (tryAll request addr policy (connecting refusals)).value.success.elim []
          fun s => exchangeLines request (exchange s.2) := by
  rw [tryThen, Logged.bind_log]
  cases (tryAll request addr policy (connecting refusals)).value.success with
  | none => rfl
  | some s => cases hx : exchange s.2 <;> simp [hx, exchangeLines]

end Refused

end Attempt

namespace Client

variable (addr : String) (policy : RetryPolicy) (refusals : Nat → Option Fault)
  (reply : List ReadEvent)

/-- The owner is known by the name that follows the marker in the reply. -/
lemma query_eq_known_iff_marked {name : String} :
    (query addr policy { refusals, reply }).value.answer = .known name ↔
      Attempt.Reaches policy refusals ∧ ∃ rest,
        (readReply messageLimit reply).result =
          .ok (Text.Utf8.bytesOf ownerMarker ++ rest) ∧ name ≠ "" ∧
        name.toList = (Text.Utf8.decodeLossy rest).rdropWhile Text.isPadding := by
  rw [query_eq_known_iff_of_reaches]
  refine and_congr_right fun _ => ?_
  constructor
  · rintro ⟨bytes, hread, hdecode⟩
    obtain ⟨rest, rfl, hname⟩ := Reply.decode_eq_owner_iff.1 hdecode
    exact ⟨rest, hread, hname⟩
  · rintro ⟨rest, hread, hname⟩
    exact ⟨_, hread, Reply.decode_eq_owner_iff.2 ⟨rest, rfl, hname⟩⟩

/-- The owner stays unknown if no text is left after the marker, or there is none. -/
lemma query_eq_unknown_iff_marked :
    (query addr policy { refusals, reply }).value.answer = .unknown ↔
      ¬(Attempt.Reaches policy refusals ∧ ∃ rest,
        (readReply messageLimit reply).result =
          .ok (Text.Utf8.bytesOf ownerMarker ++ rest) ∧
        (Text.Utf8.decodeLossy rest).rdropWhile Text.isPadding ≠ []) := by
  constructor
  · rintro hunknown ⟨hreach, rest, hread, hne⟩
    have hknown := (query_eq_known_iff_marked addr policy refusals reply).2
      ⟨hreach, rest, hread, by simpa using hne, String.toList_ofList⟩
    rw [hunknown] at hknown
    cases hknown
  · intro hnot
    cases hanswer : (query addr policy { refusals, reply }).value.answer with
    | unknown => rfl
    | known name =>
      obtain ⟨hreach, rest, hread, hne, hname⟩ :=
        (query_eq_known_iff_marked addr policy refusals reply).1 hanswer
      refine absurd ⟨hreach, rest, hread, ?_⟩ hnot
      rw [← hname]
      simpa using hne

end Client

open Attempt in
/-- **Asking once.**  Let `r` connects be refused and the next one be accepted, if the policy gets
that far; it allows some attempts, zero counting as one.

* If the next connect is allowed, it is the last one that is made, and the exchange is made on it,
  once, whatever it comes to.  Its value is told, or none if it fails, with the number of that
  connect.  Each refused connect leaves one entry, and an exchange that fails leaves one warning
  after them.
* Otherwise all connects are made, no exchange is, and the number of attempts is told.  Each connect
  leaves one entry.

So the question for the owner goes out on one connection or on none.  The owner is known by a name
exactly if the question went out, its reply is read into 256 bytes without a failure, and what is
read is the marker followed by some bytes whose text, without the padding at its end, is that name
and not empty; in every other case the owner stays unknown. -/
theorem tryOnce_exchanges_once {α : Type} (request : Request) (addr : String)
    (policy : RetryPolicy) (r : Nat) (refusals : Nat → Option Fault) (cause : Nat → Fault)
    (hrefused : ∀ k, 1 ≤ k → k ≤ r → refusals k = some (cause k))
    (haccepted : r < max 1 policy.maxAttempts.toNat → refusals (r + 1) = none)
    (exchange : Except String α) (reply : List ReadEvent) :
    let allowed := max 1 policy.maxAttempts.toNat
    let once := tryOnce request addr policy refusals exchange
    let asked := (Client.query addr policy { refusals, reply }).value
    (r < allowed →
      once.value = ⟨(exchange.toOption, r + 1), r + 1, 1⟩ ∧
      once.log = refusalLines request addr allowed cause r ++ exchangeLines request exchange) ∧
    (allowed ≤ r →
      once.value = ⟨(none, allowed), allowed, 0⟩ ∧
      once.log = refusalLines request addr allowed cause allowed) ∧
    asked.sent = (if r < allowed then [Text.Utf8.bytesOf "GET_USER_INFO"] else []) ∧
    (∀ name, asked.answer = .known name ↔
      r < allowed ∧ ∃ rest,
        (readReply 256 reply).result = .ok (Text.Utf8.bytesOf "USER_INFO:" ++ rest) ∧ name ≠ "" ∧
        name.toList = (Text.Utf8.decodeLossy rest).rdropWhile Text.isPadding) ∧
    (asked.answer = .unknown ↔
      ¬(r < allowed ∧ ∃ rest,
        (readReply 256 reply).result = .ok (Text.Utf8.bytesOf "USER_INFO:" ++ rest) ∧
        (Text.Utf8.decodeLossy rest).rdropWhile Text.isPadding ≠ [])) := by
  intro allowed once asked
  have hne : ∀ k, 1 ≤ k → k ≤ r → refusals k ≠ none := by
    intro k h₁ h₂
    rw [hrefused k h₁ h₂]
    exact Option.some_ne_none _
  have hreach : Reaches policy refusals ↔ r < allowed := reaches_iff_lt hne haccepted
  have hnext : r < allowed → ReachesAt policy refusals (r + 1) := fun hr =>
    ⟨by omega, hr, haccepted hr, fun k h₁ h₂ => hne k h₁ (by omega)⟩
  have hlog : once.log = _ := log_tryThen request addr fun _ => exchange
  refine ⟨fun hr => ⟨?_, ?_⟩, fun hr => ⟨?_, ?_⟩, ?_, fun name => ?_, ?_⟩
  · exact value_tryThen_of_reachesAt request addr (hnext hr) fun _ => exchange
  · rw [hlog, value_tryAll_of_reachesAt request addr (hnext hr),
      log_tryAll_of_accepted request addr hr hrefused (haccepted hr)]
    rfl
  · exact value_tryThen_of_not_reaches request addr (by rw [hreach]; omega) fun _ => exchange
  · have hall : ∀ k, 1 ≤ k → k ≤ allowed → refusals k = some (cause k) :=
      fun k h₁ h₂ => hrefused k h₁ (by omega)
    rw [hlog, value_tryAll_of_not_reaches request addr (by rw [hreach]; omega),
      log_tryAll_of_refused request addr hall]
    exact List.append_nil _
  · split_ifs with hr
    · exact congrArg Asked.sent (Client.query_of_reaches addr refusals reply (hreach.2 hr))
    · exact congrArg Asked.sent
        (Client.query_of_not_reaches addr { refusals, reply } fun h => hr (hreach.1 h))
  · rw [← hreach]
    exact Client.query_eq_known_iff_marked addr policy refusals reply
  · rw [← hreach]
    exact Client.query_eq_unknown_iff_marked addr policy refusals reply

open Attempt in
/-- One refused connect; the exchange on the next one fails, and the reply that the question gets
there comes in two pieces, padded, with an interruption between them. -/
theorem tryOnce_exchanges_once_after_refusal :
    let refusals : Nat → Option Fault := fun k => if k ≤ 1 then some .connectionRefused else none
    let reply : List ReadEvent := [.data (Text.Utf8.bytesOf "USER_INFO:al"),
      .failure { kind := .interrupted }, .data (Text.Utf8.bytesOf "ice \x00")]
    let exchange : Except String Unit := .error "timed out"
    (tryOnce .ownerUser (address 45931) RetryPolicy.queryDefault refusals exchange).value =
        ⟨(none, 2), 2, 1⟩ ∧
      (Client.query (address 45931) RetryPolicy.queryDefault { refusals, reply }).value.answer =
        .known "alice" := by
  intro refusals reply exchange
  have hrefused : ∀ k, 1 ≤ k → k ≤ 1 → refusals k = some .connectionRefused := by
    intro k _ hk
    simp [refusals, hk]
  have hall := tryOnce_exchanges_once .ownerUser (address 45931) RetryPolicy.queryDefault 1 refusals
    (fun _ => .connectionRefused) hrefused (fun _ => rfl) exchange reply
  obtain ⟨hexchange, -, -, hknown, -⟩ := hall
  refine ⟨(hexchange (by decide)).1, (hknown "alice").2 ⟨by decide, ?_⟩⟩
  exact ⟨Text.Utf8.bytesOf "alice \x00", rfl, by decide, by decide +kernel⟩

end LaunchGuard
