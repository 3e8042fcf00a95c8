/-
# Reading a reply

A reply arrives in pieces, and reading it is a series of events: some bytes, or a failure.  Reading
goes on until the room is full, the peer closes the connection, or nothing more comes in time; a
timeout after some bytes ends the reply, and one before any byte is a failure.  Interruptions do not
count.
-/
namespace LaunchGuard

/-- The kinds of failures of a read. -/
inductive ReadKind where
  | interrupted
  | wouldBlock
  | timedOut
  | connectionReset
  | other
deriving DecidableEq, Repr

namespace ReadKind

/-- The name of a kind. -/
def name : ReadKind → String
  | interrupted => "Interrupted"
  | wouldBlock => "WouldBlock"
  | timedOut => "TimedOut"
  | connectionReset => "ConnectionReset"
  | other => "Other"

/-- The words for a kind, where nothing more is known. -/
def words : ReadKind → String
  | interrupted => "operation interrupted"
  | wouldBlock => "operation would block"
  | timedOut => "timed out"
  | connectionReset => "connection reset"
  | other => "other error"

/-- Whether the failure says that nothing came in time. -/
def isTimeout : ReadKind → Bool
  | wouldBlock | timedOut => true
  | _ => false

end ReadKind

/-- The failure of a read. -/
structure ReadFailure where
  kind : ReadKind
  text : String := kind.words
deriving DecidableEq, Repr

/-- What one read meets. -/
inductive ReadEvent where
  /-- Bytes; none at all mean that the peer has closed the connection. -/
  | data (bytes : List UInt8)
  | failure (f : ReadFailure)
deriving DecidableEq, Repr

/-- What came of reading a reply. -/
structure Gathered where
  result : Except ReadFailure (List UInt8)
  /-- The number of reads. -/
  reads : Nat
deriving Repr

namespace Gathered

/-- The same after one more read. -/
def oneMore (g : Gathered) : Gathered := { g with reads := g.reads + 1 }

/-- Reads on after the bytes `got`; the end of the events is the end of the connection. -/
def readOn (size : Nat) (got : List UInt8) : List ReadEvent → Gathered
  | [] => if size ≤ got.length then ⟨.ok got, 0⟩ else ⟨.ok got, 1⟩
  | e :: rest =>
    if size ≤ got.length then ⟨.ok got, 0⟩
    else match e with
      | .data [] => ⟨.ok got, 1⟩
      | .data bytes => (Gathered.readOn size (got ++ bytes.take (size - got.length)) rest).oneMore
      | .failure f =>
        if f.kind = .interrupted then (Gathered.readOn size got rest).oneMore
        else if got ≠ [] ∧ f.kind.isTimeout then ⟨.ok got, 1⟩
        else ⟨.error f, 1⟩

end Gathered

/-- Reads a reply of at most `size` bytes. -/
def readReply (size : Nat) (events : List ReadEvent) : Gathered := Gathered.readOn size [] events

end LaunchGuard
