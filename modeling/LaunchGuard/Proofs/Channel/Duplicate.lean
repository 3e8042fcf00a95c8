/-
# A duplicate launch against any peer

A duplicate launch asks for the owner and then, whatever came of it, asks the running instance to
show its window.  The other side may refuse connects, not take what is sent, send anything in any
pieces, fall silent or break the connection, and it may do so differently for the two questions.  None
of this keeps the launch from its report, and nothing that the first question meets is seen by the
second.

The order of what is done can be read off the calls and, since everything on the way is logged, off
the log.
-/
import LaunchGuard.Duplicate
import LaunchGuard.Proofs.Channel.Notify
import LaunchGuard.Proofs.Channel.Query

namespace LaunchGuard

/-- The entry that tells how the launch decided about the warning: the warning itself, or that none
was due. -/
def DuplicateReport.verdict (r : DuplicateReport) : Entry :=
  if r.warned then ⟨.warn, .host, Warning.onOneLine (Warning.text r.owner r.localUser)⟩
  else ⟨.debug, .duplicate, "Running instance belongs to the same user, no warning"⟩

/-! ### Calls and their record -/

/-- A call is answered, and goes down at the end of the record. -/
@[simp] lemma Duty.run_call {α : Type} (answer : {β : Type} → Duty β → Logged β) (d : Duty α)
    (made : List DuplicateCall) :
    (d.call answer).run made = ⟨((answer d).value, made ++ [d.record]), (answer d).log⟩ :=
  congrArg (Logged.mk _) (List.append_nil (answer d).log)

section Handling

variable (user : Logged (Option String)) (query : Logged Owner) (notify : Logged NotifyOutcome)

/-- The report holds what the three calls answered, and whether a warning was due. -/
lemma report_handleDuplicate :
    (handleDuplicate user query notify).value.report =
      ⟨user.value, query.value, query.value.deservesWarning user.value, notify.value⟩ := by
  cases hw : query.value.deservesWarning user.value <;> cases hn : notify.value <;>
    simp [handleDuplicate, meetInstance, Duty.answer, NotifyOutcome.isDelivered, hw, hn]

/-- The warning comes between the two questions, and the second one is asked in any case. -/
lemma calls_handleDuplicate :
    (handleDuplicate user query notify).value.calls =
      [.resolve, .query] ++
        (if query.value.deservesWarning user.value then
          [.warn query.value user.value (Warning.text query.value user.value)] else []) ++
        [.notify] := by
  cases hw : query.value.deservesWarning user.value <;> cases hn : notify.value <;>
    simp [handleDuplicate, meetInstance, Duty.answer, Duty.record, NotifyOutcome.isDelivered, hw, hn]

/-- The log shows the calls in their order, with the verdict on the warning between them. -/
lemma log_handleDuplicate :
    (handleDuplicate user query notify).log =
      user.log ++ [⟨.debug, .duplicate, "Local user: " ++ Text.quote? user.value⟩] ++ query.log ++
        [(handleDuplicate user query notify).value.report.verdict] ++ notify.log ++
        (if notify.value.isDelivered then []
          else [⟨.info, .duplicate,
            "Running instance did not answer; its window stays as it is"⟩]) := by
  rw [report_handleDuplicate]
  cases hw : query.value.deservesWarning user.value <;> cases hn : notify.value <;>
    simp [handleDuplicate, meetInstance, Duty.answer, NotifyOutcome.isDelivered, hw, hn,
      DuplicateReport.verdict, Warning.give]

end Handling

/-- Over the channel the launch is handled with what the two peers make of the two questions. -/
lemma run_duplicateOver (user : Logged (Option String)) (addr : String) (s : Settings)
    (queryPeer notifyPeer : Peer) :
    (duplicateOver user addr s queryPeer notifyPeer).value.run =
      (handleDuplicate user
        ⟨(Client.query addr s.queryRetry queryPeer).value.answer,
          (Client.query addr s.queryRetry queryPeer).log⟩
        ⟨(Client.notify addr s.notifyRetry notifyPeer).value.answer,
          (Client.notify addr s.notifyRetry notifyPeer).log⟩).value := rfl

/-! ### What goes out -/

/-- Of what goes out once or not at all, the payloads tell which it was. -/
lemma sent_iff_of_once {P : Prop} {sent : List (List UInt8)} {wire : List UInt8}
    (h : P ∧ sent = [wire] ∨ ¬P ∧ sent = []) : (sent = [wire] ↔ P) ∧ (sent = [] ↔ ¬P) := by
  rcases h with ⟨hp, rfl⟩ | ⟨hp, rfl⟩
  · exact ⟨iff_of_true rfl hp, iff_of_false (List.cons_ne_nil _ _) (not_not_intro hp)⟩
  · exact ⟨iff_of_false (List.cons_ne_nil _ _).symm hp, iff_of_true rfl hp⟩

lemma sent_query_iff (addr : String) (policy : RetryPolicy) (peer : Peer) :
    let sent := (Client.query addr policy peer).value.sent
    let asks := ∃ k, Attempt.ReachesAt policy peer.refusals k ∧ peer.breaks k = none
    (sent = [Request.ownerUser.wire] ↔ asks) ∧ (sent = [] ↔ ¬asks) := by
  refine sent_iff_of_once ?_
  rcases Client.query_asks_or_not addr peer policy with ⟨k, hasks, hvalue⟩ | ⟨hnot, hvalue⟩
  · exact .inl ⟨⟨k, hasks⟩, congrArg Asked.sent hvalue⟩
  · exact .inr ⟨hnot, congrArg Asked.sent hvalue⟩

/-- The request is reported as delivered exactly if it goes out. -/
lemma sent_notify_iff (addr : String) (policy : RetryPolicy) (peer : Peer) :
    let told := (Client.notify addr policy peer).value
    let tells := ∃ k, 1 ≤ k ∧ k ≤ policy.attempts ∧ peer.Takes k
    ((told.sent = [Request.showWindow.wire] ↔ tells) ∧ (told.sent = [] ↔ ¬tells)) ∧
      (told.answer.isDelivered = true ↔ tells) := by
  rcases Client.notify_delivers_or_not addr policy peer with ⟨htells, k, hvalue⟩ | ⟨hnot, hvalue⟩
  · rw [hvalue]
    exact ⟨sent_iff_of_once (.inl ⟨htells, rfl⟩), iff_of_true rfl htells⟩
  · rw [hvalue]
    exact ⟨sent_iff_of_once (.inr ⟨hnot, rfl⟩), iff_of_false Bool.false_ne_true hnot⟩

/-- **A duplicate launch.**  Against any two peers the launch comes to a report.  It learns its user
once, asks for the owner once, warns at most once and then asks once for the window, and the report
holds what these calls answered; the log has their entries in this order.

What the two questions send goes out, and nothing else.  For the owner this is one payload if the
first connect that is accepted comes within the policy and its connection takes the question, and
none otherwise.  For the window it is one payload if a connection within the policy is accepted and
takes the request, and then it is reported as delivered; it is none otherwise.

The launch warns exactly if the report says so, and the warning is withheld exactly if the question
for the owner went out, the reply is read without a failure, and its bytes name the very user of this
launch.  What becomes of the request for the window does not depend on the peer that the question
met. -/
theorem duplicate_meets_any_peer (user : Logged (Option String)) (addr : String) (s : Settings)
    (queryPeer notifyPeer : Peer) :
    let launch := duplicateOver user addr s queryPeer notifyPeer
    let asked := Client.query addr s.queryRetry queryPeer
    let told := Client.notify addr s.notifyRetry notifyPeer
    let report := launch.value.run.report
    let asks := ∃ k, Attempt.ReachesAt s.queryRetry queryPeer.refusals k ∧ queryPeer.breaks k = none
    let tells := ∃ k, 1 ≤ k ∧ k ≤ max 1 s.notifyRetry.maxAttempts.toNat ∧
      notifyPeer.refusals k = none ∧ notifyPeer.breaks k = none
    (report.localUser = user.value ∧ report.owner = asked.value.answer ∧
      report.notify = told.value.answer) ∧
    launch.value.run.calls =
      [.resolve, .query] ++
        (if report.warned then
          [.warn report.owner report.localUser (Warning.text report.owner report.localUser)]
          else []) ++
        [.notify] ∧
    launch.log =
      user.log ++ [⟨.debug, .duplicate, "Local user: " ++ Text.quote? user.value⟩] ++ asked.log ++
        [report.verdict] ++ told.log ++
        (if report.notify.isDelivered then []
          else [⟨.info, .duplicate,
            "Running instance did not answer; its window stays as it is"⟩]) ∧
    (launch.value.queried = asked.value.sent ∧
      (asked.value.sent = [Text.Utf8.bytesOf "GET_USER_INFO"] ↔ asks) ∧
      (asked.value.sent = [] ↔ ¬asks)) ∧
    (launch.value.notified = told.value.sent ∧
      (told.value.sent = [Text.Utf8.bytesOf "SHOW_WINDOW"] ↔ tells) ∧
      (told.value.sent = [] ↔ ¬tells) ∧ (report.notify.isDelivered = true ↔ tells)) ∧
    (report.warned = false ↔
      asks ∧ ∃ bytes name, (readReply messageLimit queryPeer.reply).result = .ok bytes ∧
        Reply.decode bytes = .ok (.owner name) ∧ user.value = some name) ∧
    (∀ queryPeer' : Peer,
      (duplicateOver user addr s queryPeer' notifyPeer).value.run.report.notify = report.notify ∧
      (duplicateOver user addr s queryPeer' notifyPeer).value.notified =
        launch.value.notified) := by
  intro launch asked told report asks tells
  have hreport : report = ⟨user.value, asked.value.answer,
      asked.value.answer.deservesWarning user.value, told.value.answer⟩ := by
    show (duplicateOver user addr s queryPeer notifyPeer).value.run.report = _
    rw [run_duplicateOver, report_handleDuplicate]
  obtain ⟨hsent, hdelivered⟩ := sent_notify_iff addr s.notifyRetry notifyPeer
  refine ⟨by rw [hreport]; exact ⟨rfl, rfl, rfl⟩, ?_, ?_,
    ⟨rfl, sent_query_iff addr s.queryRetry queryPeer⟩,
    ⟨rfl, hsent.1, hsent.2, by rw [hreport]; exact hdelivered⟩, ?_, fun queryPeer' => ⟨?_, rfl⟩⟩
  · rw [hreport]
    exact calls_handleDuplicate _ _ _
  · rw [hreport]
    -- the channel itself adds nothing to the log
    have hlog : launch.log = (handleDuplicate user ⟨asked.value.answer, asked.log⟩
        ⟨told.value.answer, told.log⟩).log := List.append_nil _
    rw [hlog, log_handleDuplicate, report_handleDuplicate]
  · rw [hreport, Owner.deservesWarning_eq_false_iff]
    constructor
    · rintro ⟨name, hknown, huser⟩
      obtain ⟨hasks, bytes, hread, hdecode⟩ := (Client.query_eq_known_iff _ _ _).1 hknown
      exact ⟨hasks, bytes, name, hread, hdecode, huser⟩
    · rintro ⟨hasks, bytes, name, hread, hdecode, huser⟩
      exact ⟨name, (Client.query_eq_known_iff _ _ _).2 ⟨hasks, bytes, hread, hdecode⟩, huser⟩
  · rw [hreport, run_duplicateOver, report_handleDuplicate]

end LaunchGuard
