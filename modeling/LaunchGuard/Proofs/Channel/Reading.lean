/-
# What a reply comes to

A reply reaches its reader in pieces, and the pieces say nothing: as long as the bytes have room,
they are gathered whole, wherever the stream was cut.  The reader then stops with them at the end of
the connection, or when nothing more comes in time.

In general, reading a reply passes over the events that bring bytes or only interrupt it.  It stops
at the first event that does neither, or when the room is full.  So what comes of it can be told
without the reading: the bytes up to the event that stops it count, as far as they have room, and
that event matters only where room is left.

A read that meets more bytes than it has room for leaves the rest to the next read.  There is no next
read then, for the room is full.
-/
import Mathlib.Tactic.Lemma
import LaunchGuard.Channel.Reading

namespace LaunchGuard

/-! ### Pieces -/

/-- How a reply of the bytes `got` may end: with the end of the connection, or, if any byte came,
with a time in which nothing more does. -/
def EndsReply (got : List UInt8) : List ReadEvent → Prop
  | [] => True
  | .data bytes :: _ => bytes = []
  | .failure f :: _ => got ≠ [] ∧ f.kind.isTimeout = true

namespace Gathered

variable {size : Nat} {got : List UInt8}

@[simp] lemma oneMore_result (g : Gathered) : g.oneMore.result = g.result := rfl

/-- A piece that has room is added to what was gathered. -/
lemma result_readOn_piece {piece : List UInt8} (events : List ReadEvent) (hne : piece ≠ [])
    (hfit : got.length + piece.length ≤ size) :
    (readOn size got (.data piece :: events)).result =
      (readOn size (got ++ piece) events).result := by
  have hpos : 0 < piece.length := List.length_pos_iff.2 hne
  have htake : piece.take (size - got.length) = piece := List.take_of_length_le (by omega)
  rw [readOn, if_neg (by omega), oneMore_result, htake]
  exact hne

/-- Pieces that have room are gathered whole, in order. -/
lemma result_readOn_pieces {pieces : List (List UInt8)} (events : List ReadEvent)
    (hne : ∀ c ∈ pieces, c ≠ []) (hfit : got.length + pieces.flatten.length ≤ size) :
    (readOn size got (pieces.map .data ++ events)).result =
      (readOn size (got ++ pieces.flatten) events).result := by
  induction pieces generalizing got with
  | nil => simp
  | cons c cs ih =>
    obtain ⟨hc, hcs⟩ := List.forall_mem_cons.1 hne
    rw [List.flatten_cons, List.length_append] at hfit
    rw [List.map_cons, List.cons_append, result_readOn_piece _ hc (by omega),
      ih hcs (by rw [List.length_append]; omega), List.flatten_cons, List.append_assoc]

lemma result_readOn_ending {events : List ReadEvent} (h : EndsReply got events) :
    (readOn size got events).result = .ok got := by
  match events, h with
  | [], _ =>
    rw [readOn]
    split <;> rfl
  | .data bytes :: _, h =>
    obtain rfl : bytes = [] := h
    rw [readOn]
    split <;> rfl
  | .failure f :: _, h =>
    obtain ⟨hgot, htime⟩ := h
    have hkind : f.kind ≠ .interrupted := by
      intro hi
      rw [hi] at htime
      cases htime
    rw [readOn, if_neg hkind]
    split
    · rfl
    · rw [if_pos ⟨hgot, htime⟩]

end Gathered

/-- A reply that has room arrives whole, however it is cut into pieces. -/
lemma result_readReply {size : Nat} {pieces : List (List UInt8)} {ending : List ReadEvent}
    (hne : ∀ c ∈ pieces, c ≠ []) (hfit : pieces.flatten.length ≤ size)
    (hend : EndsReply pieces.flatten ending) :
    (readReply size (pieces.map .data ++ ending)).result = .ok pieces.flatten := by
  rw [readReply, Gathered.result_readOn_pieces _ hne (by simpa using hfit), List.nil_append]
  exact Gathered.result_readOn_ending hend

/-! ### Streams and what stops them -/

namespace ReadEvent

/-- Whether the event only interrupts the reading. -/
def isInterruption : ReadEvent → Bool
  | .data _ => false
  | .failure f => f.kind = .interrupted

/-- Whether the reading goes on after the event, as far as there is room. -/
def goesOn : ReadEvent → Bool
  | .data bytes => !bytes.isEmpty
  | .failure f => f.kind = .interrupted

/-- The bytes that the event brings. -/
def content : ReadEvent → List UInt8
  | .data bytes => bytes
  | .failure _ => []

/-- The bytes up to the event that stops the reading. -/
def stream (events : List ReadEvent) : List UInt8 := (events.takeWhile goesOn).flatMap content

/-- The events from the one on that stops the reading; there is none if it is the end of the
connection. -/
def ending (events : List ReadEvent) : List ReadEvent := events.dropWhile goesOn

/-- One read into some room: what it yields, and the events that are left.  A piece that is longer
than the room leaves its rest. -/
def oneRead (room : Nat) : List ReadEvent → Except ReadFailure (List UInt8) × List ReadEvent
  | [] => (.ok [], [])
  | .data bytes :: rest =>
    if bytes.length ≤ room then (.ok bytes, rest)
    else (.ok (bytes.take room), .data (bytes.drop room) :: rest)
  | .failure f :: rest => (.error f, rest)

variable {e : ReadEvent}

@[simp] lemma stream_nil : stream [] = [] := rfl

lemma stream_of_goesOn (h : e.goesOn = true) (events : List ReadEvent) :
    stream (e :: events) = e.content ++ stream events := by
  rw [stream, List.takeWhile_cons_of_pos h, List.flatMap_cons, stream]

lemma stream_of_stops (h : e.goesOn = false) (events : List ReadEvent) :
    stream (e :: events) = [] := by
  rw [stream, List.takeWhile_cons_of_neg (by simp [h]), List.flatMap_nil]

lemma ending_of_goesOn (h : e.goesOn = true) (events : List ReadEvent) :
    ending (e :: events) = ending events :=
  List.dropWhile_cons_of_pos h

lemma ending_of_stops (h : e.goesOn = false) (events : List ReadEvent) :
    ending (e :: events) = e :: events :=
  List.dropWhile_cons_of_neg (by simp [h])

lemma goesOn_of_ending_eq_cons {events rest : List ReadEvent} (h : ending events = e :: rest) :
    e.goesOn = false := by
  have hhead := List.head?_dropWhile_not goesOn events
  rw [← ending, h] at hhead
  simpa using hhead

/-- An event after which the reading goes on brings a byte, or is an interruption. -/
lemma one_le_of_goesOn (h : e.goesOn = true) :
    1 ≤ e.content.length + if e.isInterruption then 1 else 0 := by
  cases e with
  | data bytes =>
    have hne : bytes ≠ [] := by simpa [goesOn] using h
    exact Nat.le_add_right_of_le (List.length_pos_iff.2 hne)
  | failure f =>
    have hf : (failure f).isInterruption = true := h
    rw [if_pos hf]
    exact Nat.le_add_left 1 _

/-- Only the first event tells whether the reply ends. -/
lemma endsReply_congr {got : List UInt8} {events events' : List ReadEvent}
    (h : events'.head? = events.head?) : EndsReply got events' ↔ EndsReply got events := by
  match events, events', h with
  | [], [], _ => rfl
  | .data _ :: _, .data _ :: _, h => cases h; rfl
  | .failure _ :: _, .failure _ :: _, h => cases h; rfl

/-- What stops the reading ends the reply, or it is a failure that does not. -/
lemma endsReply_or_failure (got : List UInt8) (events : List ReadEvent) :
    EndsReply got (ending events) ∨
      ¬EndsReply got (ending events) ∧ ∃ f, (ending events).head? = some (.failure f) := by
  rcases h : ending events with _ | ⟨bytes | f, rest⟩
  · exact .inl trivial
  · have hstops := goesOn_of_ending_eq_cons h
    have hnil : bytes = [] := by simpa [goesOn] using hstops
    exact .inl hnil
  · by_cases hends : EndsReply got (.failure f :: rest)
    · exact .inl hends
    · exact .inr ⟨hends, f, rfl⟩

end ReadEvent

namespace Gathered

open ReadEvent

variable {size : Nat} {got : List UInt8} {e : ReadEvent}

@[simp] lemma oneMore_reads (g : Gathered) : g.oneMore.reads = g.reads + 1 := rfl

/-! ### One event -/

/-- Where no room is left, nothing is read. -/
lemma readOn_full (h : size ≤ got.length) (events : List ReadEvent) :
    readOn size got events = ⟨.ok got, 0⟩ := by
  cases events with
  | nil => rw [readOn, if_pos h]
  | cons e events => rw [readOn.eq_def]; exact if_pos h

lemma readOn_of_goesOn (h : got.length < size) (he : e.goesOn = true) (events : List ReadEvent) :
    readOn size got (e :: events) =
      (readOn size (got ++ e.content.take (size - got.length)) events).oneMore := by
  cases e with
  | data bytes =>
    have hne : bytes ≠ [] := by simpa [goesOn] using he
    rw [readOn, if_neg (by omega), content]
    exact hne
  | failure f =>
    have hf : f.kind = .interrupted := by simpa [goesOn] using he
    rw [readOn, if_neg (by omega), if_pos hf, content, List.take_nil, List.append_nil]

lemma reads_readOn_of_stops (h : got.length < size) (he : e.goesOn = false)
    (events : List ReadEvent) : (readOn size got (e :: events)).reads = 1 := by
  cases e with
  | data bytes =>
    obtain rfl : bytes = [] := by simpa [goesOn] using he
    rw [readOn, if_neg (by omega)]
  | failure f =>
    have hf : f.kind ≠ .interrupted := by simpa [goesOn] using he
    rw [readOn, if_neg (by omega), if_neg hf]
    split <;> rfl

/-- A failure that does not end the reply is what comes of the reading. -/
lemma result_readOn_failure {f : ReadFailure} {events : List ReadEvent} (h : got.length < size)
    (hf : (ending events).head? = some (.failure f)) (hends : ¬EndsReply got (ending events)) :
    (readOn size got (ending events)).result = .error f := by
  obtain ⟨rest, hrest⟩ : ∃ rest, ending events = .failure f :: rest :=
    List.head?_eq_some_iff.1 hf
  have hkind : f.kind ≠ .interrupted := by simpa [goesOn] using goesOn_of_ending_eq_cons hrest
  rw [hrest] at hends ⊢
  rw [readOn, if_neg (by omega), if_neg hkind]
  exact congrArg Gathered.result (if_neg hends)

/-- The reading after the bytes `got`, once a read has yielded something and left some events. -/
def afterRead (size : Nat) (got : List UInt8) :
    Except ReadFailure (List UInt8) × List ReadEvent → Gathered
  | (.ok [], _) => ⟨.ok got, 1⟩
  | (.ok (b :: bytes), rest) => (readOn size (got ++ b :: bytes) rest).oneMore
  | (.error f, rest) =>
    if f.kind = .interrupted then (readOn size got rest).oneMore
    else if got ≠ [] ∧ f.kind.isTimeout then ⟨.ok got, 1⟩
    else ⟨.error f, 1⟩

/-- Where room is left, the reading goes on from one read to the next. -/
lemma readOn_eq_afterRead (h : got.length < size) (events : List ReadEvent) :
    readOn size got events = afterRead size got (oneRead (size - got.length) events) := by
  match events with
  | [] => rw [readOn, if_neg (by omega), oneRead, afterRead]
  | .failure f :: rest => rw [readOn, if_neg (by omega), oneRead, afterRead]
  | .data [] :: rest =>
    rw [readOn, if_neg (by omega)]
    rfl
  | .data (b :: bytes) :: rest =>
    rw [readOn_of_goesOn h rfl, content, oneRead]
    split
    · next hfit => rw [List.take_of_length_le hfit, afterRead]
    · next hlong =>
      -- the rest of the piece is left where there is no room
      have hfull : size ≤ (got ++ (b :: bytes).take (size - got.length)).length := by
        rw [List.length_append, List.length_take]
        omega
      obtain ⟨room, hroom⟩ : ∃ room, size - got.length = room + 1 :=
        ⟨size - got.length - 1, by omega⟩
      rw [hroom, List.take_succ_cons] at hfull ⊢
      rw [readOn_full hfull, afterRead, readOn_full hfull]

/-! ### All events -/

/-- The reading comes to what has room of the bytes up to where it stops, or to what is read there
after these bytes. -/
lemma result_readOn (h : got.length ≤ size) (events : List ReadEvent) :
    (readOn size got events).result =
      if size ≤ (got ++ stream events).length then .ok ((got ++ stream events).take size)
      else (readOn size (got ++ stream events) (ending events)).result := by
  induction events generalizing got with
  | nil =>
    rw [stream_nil, List.append_nil]
    split
    · next hfull => rw [readOn_full hfull, List.take_of_length_le h]
    · rfl
  | cons e events ih =>
    by_cases hfull : size ≤ got.length
    · rw [readOn_full hfull, if_pos (by rw [List.length_append]; omega),
        List.take_append_of_le_length hfull, List.take_of_length_le h]
    · cases he : e.goesOn with
      | false =>
        rw [stream_of_stops he, List.append_nil, if_neg hfull, ending_of_stops he]
      | true =>
        have hlength : (got ++ e.content.take (size - got.length)).length ≤ size := by
          rw [List.length_append, List.length_take]
          omega
        rw [readOn_of_goesOn (by omega) he, oneMore_result, stream_of_goesOn he,
          ending_of_goesOn he, ← List.append_assoc]
        by_cases hfit : e.content.length ≤ size - got.length
        · rw [List.take_of_length_le hfit] at hlength ⊢
          exact ih hlength
        · -- the room is full with a part of what the event brings
          have hlong : size ≤ (got ++ e.content).length := by
            rw [List.length_append]
            omega
          rw [readOn_full (by rw [List.length_append, List.length_take]; omega),
            if_pos (by rw [List.length_append]; omega), List.take_append_of_le_length hlong,
            List.take_append, List.take_of_length_le h]

/-- Events that come after the room is full do not matter. -/
lemma readOn_take {n : Nat} {events : List ReadEvent}
    (h : size ≤ got.length + (stream (events.take n)).length) :
    readOn size got events = readOn size got (events.take n) := by
  induction n generalizing got events with
  | zero =>
    rw [List.take_zero, stream_nil, List.length_nil] at h
    rw [readOn_full h, readOn_full h]
  | succ n ih =>
    by_cases hfull : size ≤ got.length
    · rw [readOn_full hfull, readOn_full hfull]
    · cases events with
      | nil => rw [List.take_nil]
      | cons e events =>
        rw [List.take_succ_cons] at h ⊢
        cases he : e.goesOn with
        | false =>
          -- such an event adds nothing, so the room cannot be full with it
          rw [stream_of_stops he, List.length_nil] at h
          omega
        | true =>
          rw [stream_of_goesOn he, List.length_append] at h
          rw [readOn_of_goesOn (by omega) he, readOn_of_goesOn (by omega) he, ih]
          rw [List.length_append, List.length_take]
          omega

/-- Every read but the last one brings a byte or is interrupted. -/
lemma reads_readOn_le (size : Nat) (got : List UInt8) (events : List ReadEvent) :
    (readOn size got events).reads ≤
      min (size - got.length) (stream events).length +
        (events.take (readOn size got events).reads).countP isInterruption + 1 := by
  induction events generalizing got with
  | nil =>
    rw [readOn]
    split <;> simp
  | cons e events ih =>
    by_cases hfull : size ≤ got.length
    · rw [readOn_full hfull]
      exact Nat.zero_le _
    · cases he : e.goesOn with
      | false =>
        rw [reads_readOn_of_stops (by omega) he]
        exact Nat.le_add_left 1 _
      | true =>
        have hrest := ih (got ++ e.content.take (size - got.length))
        have hone := one_le_of_goesOn he
        rw [List.length_append, List.length_take] at hrest
        rw [readOn_of_goesOn (by omega) he, oneMore_reads, stream_of_goesOn he, List.length_append,
          List.take_succ_cons, List.countP_cons]
        omega

end Gathered

section Reply

open ReadEvent

variable {size : Nat} {events : List ReadEvent}

lemma result_readReply_of_full (h : size ≤ (stream events).length) :
    (readReply size events).result = .ok ((stream events).take size) :=
  (Gathered.result_readOn (Nat.zero_le size) events).trans (if_pos h)

lemma result_readReply_of_room (h : (stream events).length < size) :
    (readReply size events).result =
      (Gathered.readOn size (stream events) (ending events)).result :=
  (Gathered.result_readOn (Nat.zero_le size) events).trans (if_neg (Nat.not_le.2 h))

lemma readReply_eq_ok_iff {bytes : List UInt8} :
    (readReply size events).result = .ok bytes ↔
      bytes = (stream events).take size ∧
        (size ≤ (stream events).length ∨ EndsReply (stream events) (ending events)) := by
  rcases Nat.lt_or_ge (stream events).length size with hroom | hfull
  · rw [result_readReply_of_room hroom, List.take_of_length_le (Nat.le_of_lt hroom),
      or_iff_right (Nat.not_le.2 hroom)]
    rcases endsReply_or_failure (stream events) events with hends | ⟨hends, f, hf⟩
    · rw [Gathered.result_readOn_ending hends, Except.ok.injEq, and_iff_left hends, eq_comm]
    · rw [Gathered.result_readOn_failure hroom hf hends]
      exact ⟨nofun, fun h => absurd h.2 hends⟩
  · rw [result_readReply_of_full hfull, Except.ok.injEq, and_iff_left (.inl hfull), eq_comm]

lemma readReply_eq_error_iff {f : ReadFailure} :
    (readReply size events).result = .error f ↔
      (stream events).length < size ∧ ¬EndsReply (stream events) (ending events) ∧
        (ending events).head? = some (.failure f) := by
  rcases Nat.lt_or_ge (stream events).length size with hroom | hfull
  · rw [result_readReply_of_room hroom, and_iff_right hroom]
    rcases endsReply_or_failure (stream events) events with hends | ⟨hends, g, hg⟩
    · rw [Gathered.result_readOn_ending hends]
      exact ⟨nofun, fun h => absurd hends h.1⟩
    · rw [Gathered.result_readOn_failure hroom hg hends, and_iff_right hends, hg]
      simp
  · rw [result_readReply_of_full hfull]
    exact ⟨nofun, fun h => absurd h.1 (Nat.not_lt.2 hfull)⟩

/-- Only the bytes before the stop and the event that stops the reading tell what comes of it. -/
lemma result_readReply_congr {events' : List ReadEvent} (hstream : stream events' = stream events)
    (hstop : (ending events').head? = (ending events).head?) :
    (readReply size events').result = (readReply size events).result := by
  have hends : EndsReply (stream events) (ending events') ↔
      EndsReply (stream events) (ending events) := endsReply_congr hstop
  cases h : (readReply size events).result with
  | ok bytes => rwa [readReply_eq_ok_iff, hstream, hends, ← readReply_eq_ok_iff]
  | error f => rwa [readReply_eq_error_iff, hstream, hends, hstop, ← readReply_eq_error_iff]

end Reply

open ReadEvent in
/-- **Reading a reply.**  Let the reading stop at the first event that is neither some bytes nor an
interruption, or at the end of the connection, and let `got` be the bytes up to there.

* The reply is what of `got` has room, if the room is full with it, or if what stops the reading ends
  the reply: the end of the connection, an empty piece, or a timeout after some byte.
* Otherwise the failure at which the reading stops is what comes of it.
* So neither the pieces in which `got` arrives nor interruptions matter to the reply, and no event
  after the room is full matters to anything.
* There are at most as many reads as bytes are gathered and interruptions met, and one more.

Each read hands over what has room and leaves the rest of a piece for the next one. -/
theorem readReply_gathers (size : Nat) (events : List ReadEvent) :
    let got := stream events
    let reply := readReply size events
    (∀ bytes, reply.result = .ok bytes ↔
      bytes = got.take size ∧ (size ≤ got.length ∨ EndsReply got (ending events))) ∧
    (∀ f, reply.result = .error f ↔
      got.length < size ∧ ¬EndsReply got (ending events) ∧
        (ending events).head? = some (.failure f)) ∧
    (∀ events', stream events' = got → (ending events').head? = (ending events).head? →
      (readReply size events').result = reply.result) ∧
    (∀ n, size ≤ (stream (events.take n)).length → reply = readReply size (events.take n)) ∧
    reply.reads ≤ min size got.length + (events.take reply.reads).countP isInterruption + 1 ∧
    (∀ before, before.length < size → Gathered.readOn size before events =
      Gathered.afterRead size before (oneRead (size - before.length) events)) := by
  intro got reply
  refine ⟨fun _ => readReply_eq_ok_iff, fun _ => readReply_eq_error_iff,
    fun _ hstream hstop => result_readReply_congr hstream hstop, fun n hn => ?_, ?_,
    fun _ h => Gathered.readOn_eq_afterRead h events⟩
  · have hfull : size ≤ ([] : List UInt8).length + (stream (events.take n)).length := by
      simpa using hn
    exact Gathered.readOn_take hfull
  · exact Gathered.reads_readOn_le size [] events

end LaunchGuard
