/-
# Who owns the running instance

A later launch asks the running instance for its owner and warns its user unless the owner is known
to be that very user.  If the instance is reached, the answer is what its reply says, and the reply
carries the name of its user through cutting and trimming.  So the warning is withheld exactly from
a user whose name is the canonical form of the owner's name.
-/
import LaunchGuard.Channel.Client
import LaunchGuard.Proofs.Channel.Attempts
import LaunchGuard.Proofs.Channel.Reading
import LaunchGuard.Proofs.Channel.Service
import LaunchGuard.Proofs.Message.RoundTrip

namespace LaunchGuard

namespace Attempt

variable {α : Type} (request : Request) (addr : String) {policy : RetryPolicy}
  {refusals : Nat → Option Fault} {k : Nat}

/-- The connect that is accepted is used for the exchange, and its number is told. -/
lemma value_tryThen_of_reachesAt (h : ReachesAt policy refusals k)
    (exchange : Nat → Except String α) :
    (tryThen request addr policy refusals exchange).value =
      ⟨((exchange k).toOption, k), k, 1⟩ := by
  rw [tryThen, Logged.bind_value, value_tryAll_of_reachesAt request addr h]
  cases hx : exchange k with
  | ok a => simp [hx, Except.toOption]
  | error cause => simp [hx, Except.toOption]

/-- If every connect is refused, no exchange is made. -/
lemma value_tryThen_of_not_reaches (h : ¬Reaches policy refusals)
    (exchange : Nat → Except String α) :
    (tryThen request addr policy refusals exchange).value =
      ⟨(none, policy.attempts), policy.attempts, 0⟩ := by
  rw [tryThen, Logged.bind_value, value_tryAll_of_not_reaches request addr h]
  rfl

end Attempt

/-- The owner that the outcome of an exchange tells of. -/
def Owner.ofExchange : Except ExchangeFault Reply → Owner
  | .ok (.owner name) => .known name
  | .ok .empty => .unknown
  | .error _ => .unknown

lemma Owner.ofExchange_eq_known_iff {e : Except ExchangeFault Reply} {name : String} :
    Owner.ofExchange e = .known name ↔ e = .ok (.owner name) := by
  match e with
  | .ok (.owner m) => simp [ofExchange]
  | .ok .empty => simp [ofExchange]
  | .error _ => simp [ofExchange]

namespace Client

variable (addr : String) {policy : RetryPolicy} (peer : Peer) {k : Nat}

/-- If the running instance is reached, it is asked once, and the answer is what comes of asking on
that connection. -/
lemma query_of_reachesAt (h : Attempt.ReachesAt policy peer.refusals k) :
    (query addr policy peer).value =
      ⟨Owner.ofExchange (ask peer k),
        if peer.breaks k = none then [Request.ownerUser.wire] else []⟩ := by
  have htried := Attempt.value_tryThen_of_reachesAt .ownerUser addr h
    fun k => (ask peer k).mapError ExchangeFault.text
  rw [query]
  simp only [Logged.bind_value, htried]
  have hsent : (if (decide ((1 : Nat) ≠ 0) && (peer.breaks k).isNone) = true
      then [Request.ownerUser.wire] else []) =
      if peer.breaks k = none then [Request.ownerUser.wire] else [] := by
    cases peer.breaks k <;> rfl
  match ask peer k with
  | .ok (.owner name) => exact congrArg (Asked.mk _) hsent
  | .ok .empty => exact congrArg (Asked.mk _) hsent
  | .error _ => exact congrArg (Asked.mk _) hsent

/-- If the running instance is not reached, nothing is asked and the owner stays unknown. -/
lemma query_of_not_reaches (h : ¬Attempt.Reaches policy peer.refusals) :
    (query addr policy peer).value = ⟨.unknown, []⟩ := by
  rw [query]
  simp only [Logged.bind_value, Attempt.value_tryThen_of_not_reaches .ownerUser addr h]
  rfl

/-- The question goes out once, if the first connection within the policy takes it, and else not at
all. -/
lemma query_asks_or_not (policy : RetryPolicy) :
    (∃ k, (Attempt.ReachesAt policy peer.refusals k ∧ peer.breaks k = none) ∧
        (query addr policy peer).value =
          ⟨Owner.ofExchange (exchange peer.reply), [Request.ownerUser.wire]⟩) ∨
      (¬∃ k, Attempt.ReachesAt policy peer.refusals k ∧ peer.breaks k = none) ∧
        (query addr policy peer).value = ⟨.unknown, []⟩ := by
  by_cases hreach : Attempt.Reaches policy peer.refusals
  · obtain ⟨k, hk⟩ := Attempt.reaches_iff_exists_reachesAt.1 hreach
    rw [query_of_reachesAt addr peer hk]
    cases hbreaks : peer.breaks k with
    | none => exact .inl ⟨k, ⟨hk, hbreaks⟩, by rw [ask, hbreaks, if_pos rfl]⟩
    | some cause =>
      -- no other connection is the first
      refine .inr ⟨fun ⟨k', hk', htaken⟩ => ?_, by rw [ask, hbreaks]; rfl⟩
      rw [hk'.eq hk, hbreaks] at htaken
      cases htaken
  · refine .inr ⟨fun ⟨k, hk, _⟩ => hreach ⟨k, hk.pos, hk.allowed, hk.accepted⟩, ?_⟩
    exact query_of_not_reaches addr peer hreach

/-- If no request fails to go out, it is enough to be reached. -/
lemma query_of_reaches (refusals : Nat → Option Fault) (reply : List ReadEvent)
    (h : Attempt.Reaches policy refusals) :
    (query addr policy { refusals, reply }).value =
      ⟨Owner.ofExchange (exchange reply), [Request.ownerUser.wire]⟩ := by
  obtain ⟨k, hk⟩ := Attempt.reaches_iff_exists_reachesAt.1 h
  exact query_of_reachesAt addr { refusals, reply } hk

/-- An exchange yields a reply exactly if reading does and its bytes are that reply. -/
lemma exchange_eq_ok_iff {events : List ReadEvent} {reply : Reply} :
    exchange events = .ok reply ↔
      ∃ bytes, (readReply messageLimit events).result = .ok bytes ∧
        Reply.decode bytes = .ok reply := by
  rw [exchange]
  cases (readReply messageLimit events).result with
  | error f => simp
  | ok bytes => cases hd : Reply.decode bytes <;> simp [Except.mapError, hd]

/-- The owner becomes known exactly if the question goes out and its reply names the owner. -/
lemma query_eq_known_iff (policy : RetryPolicy) {name : String} :
    (query addr policy peer).value.answer = .known name ↔
      (∃ k, Attempt.ReachesAt policy peer.refusals k ∧ peer.breaks k = none) ∧
        ∃ bytes, (readReply messageLimit peer.reply).result = .ok bytes ∧
          Reply.decode bytes = .ok (.owner name) := by
  rcases query_asks_or_not addr peer policy with ⟨k, hasks, hvalue⟩ | ⟨hnot, hvalue⟩
  · rw [hvalue, Owner.ofExchange_eq_known_iff, exchange_eq_ok_iff, and_iff_right ⟨k, hasks⟩]
  · rw [hvalue]
    exact ⟨nofun, fun hasks => absurd hasks.1 hnot⟩

/-- If no request fails to go out, the owner becomes known as soon as the running instance is
reached. -/
lemma query_eq_known_iff_of_reaches (policy : RetryPolicy) (refusals : Nat → Option Fault)
    (reply : List ReadEvent) {name : String} :
    (query addr policy { refusals, reply }).value.answer = .known name ↔
      Attempt.Reaches policy refusals ∧
        ∃ bytes, (readReply messageLimit reply).result = .ok bytes ∧
          Reply.decode bytes = .ok (.owner name) := by
  rw [query_eq_known_iff, Attempt.reaches_iff_exists_reachesAt]
  exact and_congr_left fun _ => exists_congr fun _ => and_iff_left rfl

/-- A reply that arrives whole is read as the message that it is. -/
lemma exchange_pieces {pieces : List (List UInt8)} {ending : List ReadEvent}
    (hne : ∀ c ∈ pieces, c ≠ []) (hfit : pieces.flatten.length ≤ messageLimit)
    (hend : EndsReply pieces.flatten ending) :
    exchange (pieces.map .data ++ ending) =
      (Reply.decode pieces.flatten).mapError .message := by
  rw [exchange, result_readReply hne hfit hend]

end Client

/-! ### The warning -/

/-- The warning is withheld from the owner of the running instance. -/
lemma Owner.deservesWarning_eq_false_iff (owner : Owner) (localUser : Option String) :
    owner.deservesWarning localUser = false ↔
      ∃ name, owner = .known name ∧ localUser = some name := by
  cases owner with
  | unknown => simp [deservesWarning]
  | known name =>
    cases localUser with
    | none => simp [deservesWarning]
    | some l =>
      rw [deservesWarning, bne_eq_false_iff_eq]
      constructor
      · rintro rfl
        exact ⟨name, rfl, rfl⟩
      · rintro ⟨m, hm, hl⟩
        cases hm
        cases hl
        rfl

namespace Server

lemma asks_wire (r : Request) : (Arrival.payload r.wire).asks r = true :=
  List.isPrefixOf_iff_prefix.2 List.prefix_rfl

/-- What goes back to the question for the owner has room in one message. -/
lemma length_reply_le (user : Option String) (a : Arrival) :
    (serve user a).value.reply.length ≤ messageLimit := by
  rw [reply_serve]
  split
  · cases user with
    | none => exact Nat.zero_le _
    | some name => exact (Reply.length_encode_owner name).2
  · exact Nat.zero_le _

/-- The reply to the question for the owner names the canonical form of the user, if there is a user
and anything is left of the name. -/
lemma decode_reply_eq_owner_iff (user : Option String) (name : String) :
    Reply.decode (serve user (.payload Request.ownerUser.wire)).value.reply = .ok (.owner name) ↔
      ∃ u, user = some u ∧ name ≠ "" ∧ name.toList = Reply.canonical u := by
  rw [reply_serve, if_pos (asks_wire .ownerUser)]
  cases user with
  | none =>
    constructor
    · nofun
    · rintro ⟨u, hu, -⟩
      cases hu
  | some u =>
    rw [Option.elim_some, Reply.decode_encode_owner_eq_iff]
    constructor
    · rintro ⟨hne, hname⟩
      exact ⟨u, rfl, hne, hname.symm⟩
    · rintro ⟨v, hv, hne, hname⟩
      cases hv
      exact ⟨hne, hname.symm⟩

end Server

/-- **The decision to warn.**  A later launch asks a running instance that it reaches, and reads the
reply in any pieces, up to the end of the connection or, after some byte, up to a time limit.  It
asks once, and it withholds the warning exactly if its own user is known, not empty, and the
canonical form of the other user.  So a user whose name is canonical is recognised exactly by that
name, and a user of whom nothing is left on the wire is never recognised. -/
theorem query_withholds_warning_iff (user localUser : Option String) (addr : String)
    (policy : RetryPolicy) (refusals : Nat → Option Fault) (pieces : List (List UInt8))
    (ending : List ReadEvent) (hreach : Attempt.Reaches policy refusals)
    (hne : ∀ c ∈ pieces, c ≠ [])
    (hreply : pieces.flatten = (Server.serve user (.payload Request.ownerUser.wire)).value.reply)
    (hend : EndsReply pieces.flatten ending) :
    let asked := (Client.query addr policy { refusals, reply := pieces.map .data ++ ending }).value
    asked.sent = [Request.ownerUser.wire] ∧
    (asked.answer.deservesWarning localUser = false ↔
      ∃ u l, user = some u ∧ localUser = some l ∧ l ≠ "" ∧ l.toList = Reply.canonical u) ∧
    (∀ u, user = some u → u ≠ "" → u.utf8ByteSize ≤ 246 →
      (∀ c, u.toList.getLast? = some c → Text.isPadding c = false) →
      (asked.answer.deservesWarning localUser = false ↔ localUser = some u)) ∧
    ((∀ u, user = some u → Reply.canonical u = []) →
      asked.answer.deservesWarning localUser = true) := by
  intro asked
  have hasked : asked = ⟨Owner.ofExchange (Client.exchange (pieces.map .data ++ ending)),
      [Request.ownerUser.wire]⟩ := Client.query_of_reaches addr refusals _ hreach
  have hfit : pieces.flatten.length ≤ messageLimit := by
    rw [hreply]
    exact Server.length_reply_le user _
  -- the answer names exactly the canonical form of the other user
  have hknown : ∀ name, asked.answer = .known name ↔
      ∃ u, user = some u ∧ name ≠ "" ∧ name.toList = Reply.canonical u := by
    intro name
    rw [← Server.decode_reply_eq_owner_iff, ← hreply, hasked,
      Client.exchange_pieces hne hfit hend, Owner.ofExchange_eq_known_iff]
    cases Reply.decode pieces.flatten <;> simp [Except.mapError]
  have hwithheld : asked.answer.deservesWarning localUser = false ↔
      ∃ u l, user = some u ∧ localUser = some l ∧ l ≠ "" ∧ l.toList = Reply.canonical u := by
    rw [Owner.deservesWarning_eq_false_iff]
    constructor
    · rintro ⟨l, hl, hlocal⟩
      obtain ⟨u, hu, hne, hcan⟩ := (hknown l).1 hl
      exact ⟨u, l, hu, hlocal, hne, hcan⟩
    · rintro ⟨u, l, hu, hlocal, hne, hcan⟩
      exact ⟨l, (hknown l).2 ⟨u, hu, hne, hcan⟩, hlocal⟩
  refine ⟨by rw [hasked], hwithheld, ?_, ?_⟩
  · intro u hu hne hsize hlast
    have hcan : Reply.canonical u = u.toList := (Reply.canonical_eq_toList_iff u).2 ⟨hsize, hlast⟩
    rw [hwithheld]
    constructor
    · rintro ⟨v, l, hv, hlocal, -, hl⟩
      obtain rfl : u = v := Option.some.inj (hu.symm.trans hv)
      rw [hlocal, String.toList_inj.1 (hl.trans hcan)]
    · intro hlocal
      exact ⟨u, u, hu, hlocal, hne, hcan.symm⟩
  · intro hnone
    rw [← Bool.not_eq_false, hwithheld]
    rintro ⟨u, l, hu, -, hne, hl⟩
    rw [hnone u hu, String.toList_eq_nil_iff] at hl
    exact hne hl

/-- The third connect is accepted, and the reply comes in two pieces before the time limit. -/
theorem query_withholds_warning_in_pieces :
    let refusals : Nat → Option Fault := fun k => if k < 3 then some .connectionRefused else none
    let reply := (Server.serve (some "José ") (.payload Request.ownerUser.wire)).value.reply
    let pieces := [reply.take 14, reply.drop 14]
    let ending : List ReadEvent := [.failure { kind := .wouldBlock }]
    let peer : Peer := { refusals, reply := pieces.map .data ++ ending }
    (Client.query (address 45931) RetryPolicy.queryDefault peer).value.answer.deservesWarning
      (some "José") = false := by
  intro refusals reply pieces ending peer
  have h := query_withholds_warning_iff (some "José ") (some "José") (address 45931)
    RetryPolicy.queryDefault refusals pieces ending ⟨3, by decide, by decide, rfl⟩ (by decide)
    (by decide) ⟨by decide, rfl⟩
  exact h.2.1.2 ⟨"José ", "José", rfl, rfl, by decide, by decide⟩

end LaunchGuard
