/-
# Faults of the system

Files and sockets fail for a handful of causes that are named here.  Each has its usual text and,
where the system numbers it, that number.  Sockets and threads may fail for any other cause as well,
of which no more is known than the text that the system has for it.
-/
namespace LaunchGuard

/-- A text of the system, which is a single line. -/
abbrev SystemText : Type := { s : String // '\n' ∉ s.toList }

/-- Why the system refuses an operation on a file or a socket. -/
inductive Fault where
  | notFound
  | wouldBlock
  | alreadyExists
  | notDirectory
  | isDirectory
  | nameTooLong
  | addressInUse
  | networkUnreachable
  | connectionReset
  | connectionRefused
  /-- The content of a file is not text. -/
  | notText
  /-- A path contains the NUL character. -/
  | nulInPath
  /-- Any other cause, by its text. -/
  | other (text : SystemText)
deriving DecidableEq, Repr

namespace Fault

/-- The number of the fault, for those that have one. -/
def number? : Fault → Option Nat
  | notFound => some 2
  | wouldBlock => some 11
  | alreadyExists => some 17
  | notDirectory => some 20
  | isDirectory => some 21
  | nameTooLong => some 36
  | addressInUse => some 98
  | networkUnreachable => some 101
  | connectionReset => some 104
  | connectionRefused => some 111
  | notText => none
  | nulInPath => none
  | other _ => none

/-- The words for the fault. -/
def words : Fault → String
  | notFound => "No such file or directory"
  | wouldBlock => "Resource temporarily unavailable"
  | alreadyExists => "File exists"
  | notDirectory => "Not a directory"
  | isDirectory => "Is a directory"
  | nameTooLong => "File name too long"
  | addressInUse => "Address already in use"
  | networkUnreachable => "Network is unreachable"
  | connectionReset => "Connection reset by peer"
  | connectionRefused => "Connection refused"
  | notText => "stream did not contain valid UTF-8"
  | nulInPath => "file name contained an unexpected NUL byte"
  | other text => text.val

/-- The text of the fault: its words, followed by its number if it has one. -/
def message (f : Fault) : String :=
  match f.number? with
  | some n => f.words ++ " (os error " ++ toString n ++ ")"
  | none => f.words

end Fault

end LaunchGuard
