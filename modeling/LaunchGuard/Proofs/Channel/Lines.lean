/-
# The lines that a peer can cause

Much of what a launch logs comes from the other side of the channel: the name in a reply, the bytes
of a reply that is none, the payload of a request that is none.  The name may be cut anywhere and
may hold any character, line breaks too.  Here every entry that such text gets into is listed by its
form, and each form is seen to be a single line: the text stands escaped or between quotes, or its
line breaks have been replaced.

Only the words of the system for a failure are taken as they are.  The peer does not choose them.
-/
import LaunchGuard.Proofs.Channel.Duplicate
import LaunchGuard.Proofs.Channel.Reading
import LaunchGuard.Proofs.Channel.Retrying
import LaunchGuard.Proofs.Message.Printable

namespace LaunchGuard

open Text

/-- The entries that the question for the owner leaves, where reading the reply met `events` and
`owner` is what the launch made of it. -/
inductive QueryLine (addr : String) (events : List ReadEvent) (owner : Owner) : Entry → Prop
  | refused (k total : Nat) (cause : Fault) : QueryLine addr events owner
      ⟨.debug, .client, Attempt.refusal .ownerUser addr k total cause⟩
  /-- The question could not be sent. -/
  | unsent (cause : Fault) : QueryLine addr events owner
      ⟨.warn, .client, "GET_USER_INFO exchange failed: " ++ cause.message⟩
  /-- A read failed; its text comes from the system. -/
  | unread (f : ReadFailure) (h : .failure f ∈ events) : QueryLine addr events owner
      ⟨.warn, .client, "GET_USER_INFO exchange failed: " ++ f.text⟩
  /-- The reply is none: its first bytes are shown escaped and quoted. -/
  | unmarked (payload : List UInt8)
      (h : (readReply messageLimit events).result = .ok payload) : QueryLine addr events owner
      ⟨.warn, .client, "GET_USER_INFO exchange failed: " ++
        (MessageFault.missingMarker (printable payload)).message⟩
  | nameless : QueryLine addr events owner
      ⟨.debug, .client, "Running instance sent no user info"⟩
  /-- The name of the owner is shown quoted. -/
  | owner : QueryLine addr events owner
      ⟨.debug, .client, "Owner of running instance: " ++ owner.shown⟩

/-- The entries that a duplicate launch leaves. -/
inductive LaunchLine (addr : String) (events : List ReadEvent) (report : DuplicateReport) :
    Entry → Prop
  | localUser : LaunchLine addr events report
      ⟨.debug, .duplicate, "Local user: " ++ quote? report.localUser⟩
  | asking {e : Entry} (h : QueryLine addr events report.owner e) :
      LaunchLine addr events report e
  /-- The warning with the names in full, or that none was due. -/
  | verdict : LaunchLine addr events report report.verdict
  | refused (k total : Nat) (cause : Fault) : LaunchLine addr events report
      ⟨.debug, .client, Attempt.refusal .showWindow addr k total cause⟩
  /-- The request could not be sent. -/
  | unsent (k total : Nat) (cause : Fault) : LaunchLine addr events report
      ⟨.debug, .client, Attempt.failure .showWindow k total cause.message⟩
  | told (k : Nat) : LaunchLine addr events report
      ⟨.info, .client, "Asked running instance to show its window (attempt " ++ toString k ++ ")"⟩
  | gaveUp (n : Nat) : LaunchLine addr events report
      ⟨.info, .client, "Could not reach running instance after " ++ toString n
        ++ " attempts, giving up"⟩
  | unanswered : LaunchLine addr events report
      ⟨.info, .duplicate, "Running instance did not answer; its window stays as it is"⟩

/-! ### Every entry has one of these forms -/

namespace Attempt

/-- Attempts leave an entry for each that fails, by the way in which it fails. -/
lemma mem_log_tryAll {α : Type} {request : Request} {addr : String} {policy : RetryPolicy}
    {script : Nat → Attempt α} {e : Entry} (h : e ∈ (tryAll request addr policy script).log) :
    ∃ i, (∃ cause, script i = .refused cause ∧
        e = ⟨.debug, .client, refusal request addr i policy.attempts cause⟩) ∨
      ∃ cause, script i = .failed cause ∧
        e = ⟨.debug, .client, failure request i policy.attempts cause⟩ := by
  rw [tryAll, log_tryFrom] at h
  obtain ⟨i, -, hi⟩ := List.mem_filterMap.1 h
  cases hs : script i with
  | refused cause =>
    rw [hs] at hi
    exact ⟨i, .inl ⟨cause, hs, (Option.some.inj hi).symm⟩⟩
  | failed cause =>
    rw [hs] at hi
    exact ⟨i, .inr ⟨cause, hs, (Option.some.inj hi).symm⟩⟩
  | succeeded a =>
    rw [hs] at hi
    cases hi

lemma connecting_ne_failed {refusals : Nat → Option Fault} {i : Nat} {cause : String} :
    connecting refusals i ≠ .failed cause := by
  intro h
  rw [connecting] at h
  split at h
  · cases h
  · cases h

/-- Connecting and one exchange leave the refused connects, and the failure of the exchange. -/
lemma mem_log_tryThen {α : Type} {request : Request} {addr : String} {policy : RetryPolicy}
    {refusals : Nat → Option Fault} {exchange : Nat → Except String α} {e : Entry}
    (h : e ∈ (tryThen request addr policy refusals exchange).log) :
    (∃ i cause, e = ⟨.debug, .client, refusal request addr i policy.attempts cause⟩) ∨
      ∃ k cause, exchange k = .error cause ∧
        e = ⟨.warn, .client, request.command ++ " exchange failed: " ++ cause⟩ := by
  rw [tryThen, Logged.bind_log, List.mem_append] at h
  rcases h with h | h
  · obtain ⟨i, ⟨cause, -, he⟩ | ⟨cause, hfailed, -⟩⟩ := mem_log_tryAll h
    · exact .inl ⟨i, cause, he⟩
    · exact absurd hfailed connecting_ne_failed
  · right
    cases hs : (tryAll request addr policy (connecting refusals)).value.success with
    | none =>
      rw [hs] at h
      cases h
    | some found =>
      cases hx : exchange found.2 with
      | ok a => simp [hs, hx] at h
      | error cause => exact ⟨found.2, cause, hx, by simpa [hs, hx] using h⟩

end Attempt

lemma Peer.sending_eq_failed {p : Peer} {k : Nat} {cause : String}
    (h : p.sending k = .failed cause) : ∃ f : Fault, cause = f.message := by
  rw [sending] at h
  split at h
  · cases h
  · split at h
    · next f _ => exact ⟨f, (Attempt.failed.inj h).symm⟩
    · cases h

/-- An exchange fails because a read does, or because the reply is none. -/
lemma Client.exchange_eq_error {events : List ReadEvent} {cause : ExchangeFault}
    (h : Client.exchange events = .error cause) :
    (∃ f, .failure f ∈ events ∧ cause = .reading f) ∨
      ∃ payload, (readReply messageLimit events).result = .ok payload ∧
        cause = .message (.missingMarker (printable payload)) := by
  rw [Client.exchange] at h
  cases hr : (readReply messageLimit events).result with
  | error f =>
    rw [hr] at h
    have hstop := (readReply_eq_error_iff.1 hr).2.2
    have hmem : .failure f ∈ ReadEvent.ending events := List.mem_of_head? hstop
    exact .inl ⟨f, (List.dropWhile_sublist _).subset hmem, (Except.error.inj h).symm⟩
  | ok payload =>
    rw [hr] at h
    change (Reply.decode payload).mapError .message = .error cause at h
    cases hd : Reply.decode payload with
    | ok reply =>
      rw [hd] at h
      cases h
    | error f =>
      rw [hd] at h
      rw [(Reply.decode_eq_error_iff.1 hd).2.2] at h
      exact .inr ⟨payload, rfl, (Except.error.inj h).symm⟩

/-- Asking fails because the question cannot be sent, or because the exchange fails. -/
lemma Client.ask_eq_error {peer : Peer} {k : Nat} {cause : ExchangeFault}
    (h : Client.ask peer k = .error cause) :
    (∃ f, cause = .sending f) ∨ Client.exchange peer.reply = .error cause := by
  rw [Client.ask] at h
  cases hbreaks : peer.breaks k with
  | none =>
    rw [hbreaks] at h
    exact .inr h
  | some f =>
    rw [hbreaks] at h
    exact .inl ⟨f, (Except.error.inj h).symm⟩

/-- After the entries of the exchange, the question for the owner logs that a reply names nobody, and
then the owner. -/
lemma Client.log_query (addr : String) (policy : RetryPolicy) (peer : Peer) :
    let once := Attempt.tryThen .ownerUser addr policy peer.refusals
      fun k => (Client.ask peer k).mapError ExchangeFault.text
    (Client.query addr policy peer).log =
      once.log ++
        (if once.value.result.1 = some .empty then
          [⟨.debug, .client, "Running instance sent no user info"⟩] else []) ++
        [⟨.debug, .client,
          "Owner of running instance: " ++ (Client.query addr policy peer).value.answer.shown⟩] := by
  intro once
  show once.log ++ _ = _
  rw [List.append_assoc, Client.query, Logged.bind_value]
  cases hr : once.value.result.1 with
  | none => simp [once, hr]
  | some reply =>
    cases reply with
    | owner name => simp [once, hr]
    | empty => simp [once, hr]

/-- The entries of a question for the owner are those listed. -/
lemma Client.queryLine_of_mem_log {addr : String} {policy : RetryPolicy} {peer : Peer} {e : Entry}
    (h : e ∈ (Client.query addr policy peer).log) :
    QueryLine addr peer.reply (Client.query addr policy peer).value.answer e := by
  rw [Client.log_query, List.mem_append, List.mem_append, List.mem_singleton] at h
  rcases h with (h | h) | rfl
  · rcases Attempt.mem_log_tryThen h with ⟨i, cause, rfl⟩ | ⟨k, text, hfails, rfl⟩
    · exact .refused i _ cause
    · cases hx : Client.ask peer k with
      | ok reply =>
        rw [hx] at hfails
        cases hfails
      | error cause =>
        rw [hx] at hfails
        obtain rfl : cause.text = text := Except.error.inj hfails
        rcases Client.ask_eq_error hx with ⟨f, rfl⟩ | hx
        · exact .unsent f
        · rcases Client.exchange_eq_error hx with ⟨f, hf, rfl⟩ | ⟨payload, hread, rfl⟩
          · exact .unread f hf
          · exact .unmarked payload hread
  · split_ifs at h
    · rw [List.mem_singleton.1 h]
      exact .nameless
    · cases h
  · exact .owner

/-- The entries of a request for the window are refused connects, requests that could not be sent, and
the outcome. -/
lemma Client.mem_log_notify {addr : String} {policy : RetryPolicy} {peer : Peer} {e : Entry}
    (h : e ∈ (Client.notify addr policy peer).log) :
    (∃ i cause, e = ⟨.debug, .client,
      Attempt.refusal .showWindow addr i policy.attempts cause⟩) ∨
    (∃ (i : Nat) (f : Fault), e = ⟨.debug, .client,
      Attempt.failure .showWindow i policy.attempts f.message⟩) ∨
    (∃ k : Nat, e = ⟨.info, .client,
      "Asked running instance to show its window (attempt " ++ toString k ++ ")"⟩) ∨
    ∃ n : Nat, e = ⟨.info, .client,
      "Could not reach running instance after " ++ toString n ++ " attempts, giving up"⟩ := by
  rw [Client.notify, Logged.bind_log, List.mem_append] at h
  rcases h with h | h
  · obtain ⟨i, ⟨cause, -, he⟩ | ⟨cause, hfailed, he⟩⟩ := Attempt.mem_log_tryAll h
    · exact .inl ⟨i, cause, he⟩
    · obtain ⟨f, rfl⟩ := Peer.sending_eq_failed hfailed
      exact .inr (.inl ⟨i, f, he⟩)
  · split at h <;> simp only [Logged.bind_log, Logged.write_log, Logged.pure_log, List.append_nil,
      List.mem_singleton] at h
    · exact .inr (.inr (.inl ⟨_, h⟩))
    · exact .inr (.inr (.inr ⟨_, h⟩))

/-- The entries of a duplicate launch are those listed. -/
lemma launchLine_of_mem_log {addr : String} {s : Settings} {user : Option String}
    {queryPeer notifyPeer : Peer} {e : Entry}
    (h : e ∈ (duplicateOver (pure user) addr s queryPeer notifyPeer).log) :
    LaunchLine addr queryPeer.reply
      (duplicateOver (pure user) addr s queryPeer notifyPeer).value.run.report e := by
  rw [run_duplicateOver, report_handleDuplicate]
  rw [duplicateOver, Logged.bind_log, Logged.pure_log, List.append_nil, log_handleDuplicate,
    report_handleDuplicate] at h
  simp only [Logged.pure_log, List.nil_append, List.mem_append, List.mem_singleton] at h
  rcases h with (((h | h) | h) | h) | h
  · rw [h]
    exact .localUser
  · exact .asking (Client.queryLine_of_mem_log h)
  · rw [h]
    exact .verdict
  · rcases Client.mem_log_notify h with ⟨i, cause, rfl⟩ | ⟨i, f, rfl⟩ | ⟨k, rfl⟩ | ⟨n, rfl⟩
    · exact .refused i _ cause
    · exact .unsent i _ f
    · exact .told k
    · exact .gaveUp n
  · split at h
    · cases h
    · rw [List.mem_singleton.1 h]
      exact .unanswered

/-! ### Every form is one line -/

/-- The words of the system for a fault are a line, whatever the fault is. -/
lemma Fault.oneLine_message (f : Fault) : OneLine f.message := by
  have hwords : OneLine f.words := by
    cases f with
    | other text => exact text.property
    | _ => decide
  rw [Fault.message]
  split
  · exact ((hwords.append (by decide)).append (printable_toString _).oneLine).append (by decide)
  · exact hwords

lemma printable_address (port : Nat) : Printable (address port) :=
  Printable.append (by decide) (printable_toString port)

lemma Attempt.printable_numbered (k total : Nat) : Printable (Attempt.numbered k total) :=
  ((printable_toString k).append (by decide)).append (printable_toString total)

lemma Request.oneLine_command (request : Request) : OneLine request.command := by
  cases request <;> decide

/-- The line of a refused connect. -/
lemma Attempt.oneLine_refusal (request : Request) (port k total : Nat) (cause : Fault) :
    OneLine (Attempt.refusal request (address port) k total cause) :=
  (((((request.oneLine_command.append (by decide)).append (printable_numbered k total).oneLine).append
    (by decide)).append (printable_address port).oneLine).append (by decide)).append
      cause.oneLine_message

/-- The line of a request that could not be sent. -/
lemma Attempt.oneLine_failure (request : Request) (k total : Nat) (cause : Fault) :
    OneLine (Attempt.failure request k total cause.message) :=
  (((request.oneLine_command.append (by decide)).append (printable_numbered k total).oneLine).append
    (by decide)).append cause.oneLine_message

/-- The text of a rejection holds the payload in its printable form only. -/
lemma MessageFault.printable_message_of_shown {f : MessageFault}
    (h : f = .empty ∨ ∃ payload, f = .unknownRequest (printable payload) ∨
      f = .missingMarker (printable payload)) : Printable f.message := by
  rcases h with rfl | ⟨payload, rfl | rfl⟩
  · exact (by decide : Printable "Empty payload")
  · exact Printable.append (by decide) (printable_printable payload).quote
  · exact Printable.append (by decide) (printable_printable payload).quote

lemma Owner.oneLine_shown (owner : Owner) : OneLine owner.shown := by
  cases owner with
  | known name => exact (OneLine.append (by decide) (oneLine_quote name)).append (by decide)
  | unknown => exact (by decide : OneLine "Unknown")

lemma Warning.oneLine_onOneLine (s : String) : OneLine (Warning.onOneLine s) := by
  rw [OneLine, Warning.onOneLine, String.toList_ofList, List.mem_map]
  rintro ⟨c, -, hc⟩
  split_ifs at hc with hbreak
  · cases hc
  · exact hbreak hc

lemma DuplicateReport.oneLine_verdict (r : DuplicateReport) : OneLine r.verdict.text := by
  rw [DuplicateReport.verdict]
  split
  · exact Warning.oneLine_onOneLine _
  · decide

section OneLine

variable {port : Nat} {events : List ReadEvent} {e : Entry}

lemma QueryLine.oneLine {owner : Owner} (hsystem : ∀ f, .failure f ∈ events → OneLine f.text)
    (h : QueryLine (address port) events owner e) : OneLine e.text := by
  cases h with
  | refused k total cause => exact Attempt.oneLine_refusal _ _ k total cause
  | unsent cause => exact OneLine.append (by decide) cause.oneLine_message
  | unread f hf => exact OneLine.append (by decide) (hsystem f hf)
  | unmarked payload =>
    exact OneLine.append (by decide)
      (MessageFault.printable_message_of_shown (.inr ⟨payload, .inr rfl⟩)).oneLine
  | nameless => decide
  | owner => exact OneLine.append (by decide) owner.oneLine_shown

lemma LaunchLine.oneLine {report : DuplicateReport}
    (hsystem : ∀ f, .failure f ∈ events → OneLine f.text)
    (h : LaunchLine (address port) events report e) : OneLine e.text := by
  cases h with
  | localUser => exact OneLine.append (by decide) (oneLine_quote? report.localUser)
  | asking h => exact h.oneLine hsystem
  | verdict => exact report.oneLine_verdict
  | refused k total cause => exact Attempt.oneLine_refusal _ _ k total cause
  | unsent k total cause => exact Attempt.oneLine_failure _ k total cause
  | told k => exact (Printable.append (.append (by decide) (printable_toString k)) (by decide)).oneLine
  | gaveUp n =>
    exact (Printable.append (.append (by decide) (printable_toString n)) (by decide)).oneLine
  | unanswered => decide

end OneLine

/-! ### The side of the server -/

/-- A payload is dropped as no request, and the text of this is printable ASCII. -/
lemma Server.request_payload_eq_error {bytes : List UInt8} {cause : Dropped}
    (h : Server.request (.payload bytes) = .error cause) :
    ∃ f, cause = .rejected f ∧ Printable f.message := by
  rw [Server.request] at h
  cases hp : Request.parse (bytes.take messageLimit) with
  | ok r =>
    rw [hp] at h
    cases h
  | error f =>
    rw [hp] at h
    refine ⟨f, (Except.error.inj h).symm, MessageFault.printable_message_of_shown ?_⟩
    rcases Request.parse_eq_error_iff.1 hp with ⟨-, rfl⟩ | ⟨-, -, rfl⟩
    · exact .inl rfl
    · exact .inr ⟨_, .inl rfl⟩

/-- A connection is dropped only if it brings no request. -/
lemma Server.request_eq_error_of_dropped {user : Option String} {a : Arrival} {cause : Dropped}
    (h : (Server.serve user a).value.outcome = .error cause) : Server.request a = .error cause := by
  cases hr : Server.request a with
  | error c =>
    rw [Server.serve, hr] at h
    simpa using h
  | ok r =>
    rw [Server.serve, hr] at h
    cases r with
    | showWindow => cases h
    | ownerUser => cases user <;> cases h

/-- A connection that is dropped leaves one entry, with the text of the cause. -/
lemma Server.log_step_of_error {user : Option String} {host : Host} {origin : String} {a : Arrival}
    {cause : Dropped} (h : Server.request a = .error cause) :
    (Server.step user host origin a).log =
      [⟨.debug, .server, "Connection from " ++ origin ++ " dropped: " ++ cause.message⟩] := by
  rw [Server.step, Server.serve, h]
  rfl

/-- **A peer cannot break lines.**  Whatever a peer sends, in whatever pieces, however many connects
it refuses and however it ends the connection, under every policy and for every local user: each
entry of the question for the owner, and each entry of a duplicate launch with its warning, is a
single line and has one of the forms listed, in which the owner, the local user and a reply that is
none stand quoted, escaped, or with their line breaks replaced.  All that is asked is that the
system's own words for a failed read are a line.  A payload that the server rejects leaves one
entry, and the text of the rejection in it is ASCII without a line break. -/
theorem peer_cannot_break_lines (port : Nat) (policy : RetryPolicy) (s : Settings)
    (localUser : Option String) (queryPeer notifyPeer : Peer)
    (hsystem : ∀ f, .failure f ∈ queryPeer.reply → '\n' ∉ f.text.toList) :
    let asked := Client.query (address port) policy queryPeer
    let launch := duplicateOver (pure localUser) (address port) s queryPeer notifyPeer
    (∀ e ∈ asked.log, '\n' ∉ e.text.toList ∧
      QueryLine (address port) queryPeer.reply asked.value.answer e) ∧
    (∀ e ∈ launch.log, '\n' ∉ e.text.toList ∧
      LaunchLine (address port) queryPeer.reply launch.value.run.report e) ∧
    (∀ (user : Option String) (host : Host) (origin : String) (bytes : List UInt8)
        (cause : Dropped), (Server.serve user (.payload bytes)).value.outcome = .error cause →
      ∃ f : MessageFault, cause = .rejected f ∧
        (Server.step user host origin (.payload bytes)).log =
          [⟨.debug, .server, "Connection from " ++ origin ++ " dropped: " ++ f.message⟩] ∧
        ∀ c ∈ f.message.toList, c ≠ '\n' ∧ c.toNat < 128) := by
  intro asked launch
  refine ⟨fun e he => ?_, fun e he => ?_, fun user host origin bytes cause hdropped => ?_⟩
  · have hline := Client.queryLine_of_mem_log he
    exact ⟨hline.oneLine hsystem, hline⟩
  · have hline := launchLine_of_mem_log he
    exact ⟨hline.oneLine hsystem, hline⟩
  · have hrequest := Server.request_eq_error_of_dropped hdropped
    obtain ⟨f, rfl, hprintable⟩ := Server.request_payload_eq_error hrequest
    refine ⟨f, rfl, Server.log_step_of_error hrequest, fun c hc => ⟨?_, ?_⟩⟩
    · rintro rfl
      exact hprintable.oneLine hc
    · exact (hprintable c hc).toNat_lt

/-- A peer that refuses once and then names as its user a text of two lines, the second of which
looks like an entry of the log, before it falls silent; and a request of two lines that is none. -/
theorem peer_cannot_break_lines_by_forged_name :
    let peer : Peer :=
      { refusals := fun k => if k = 1 then some .connectionRefused else none,
        reply := [.data (Utf8.bytesOf "USER_INFO:eve\nINFO all is well"),
          .failure { kind := .timedOut }] }
    let launch := duplicateOver (pure (some "bob")) (address 45931) {} peer peer
    let bytes := Utf8.bytesOf "é\nINFO all is well"
    launch.value.run.report.owner = .known "eve\nINFO all is well" ∧
      (∀ e ∈ launch.log, '\n' ∉ e.text.toList) ∧
      ∃ f : MessageFault, (Server.serve none (.payload bytes)).value.outcome = .error (.rejected f) ∧
        ∀ c ∈ f.message.toList, c ≠ '\n' ∧ c.toNat < 128 := by
  intro peer launch bytes
  have hsystem : ∀ f, .failure f ∈ peer.reply → '\n' ∉ f.text.toList := by
    intro f hf
    obtain rfl : f = { kind := .timedOut } := by simpa [peer] using hf
    decide
  have hdropped : (Server.serve none (.payload bytes)).value.outcome =
      .error (.rejected (.unknownRequest (printable bytes))) := rfl
  have hall := peer_cannot_break_lines 45931 RetryPolicy.queryDefault {} (some "bob") peer peer
    hsystem
  refine ⟨rfl, fun e he => (hall.2.1 e he).1, ?_⟩
  obtain ⟨f, hf, -, hascii⟩ := hall.2.2 none {} (address 50000) bytes _ hdropped
  exact ⟨f, by rw [hdropped, hf], hascii⟩

end LaunchGuard
