/-
# Settings from a document

The settings are read from the entries of a document, in their order.  Keys that mean nothing are
skipped, settings without a key keep their defaults, and the first value that does not fit is
reported, with the place where it starts.

A policy is a table with its three fields, or an array whose first three items are the fields in
their order.  The fields of a policy have no defaults.
-/
import LaunchGuard.Settings.Basic
import LaunchGuard.Text.Escaped
import LaunchGuard.Toml.Document

namespace LaunchGuard

open Toml (Value Entries)

/-- What a setting wants. -/
inductive Wanted where
  | port | count | time | flag | policy
deriving DecidableEq, Repr

/-- The words for what a setting wants. -/
def Wanted.words : Wanted → String
  | port => "u16"
  | count => "u32"
  | time => "u64"
  | flag => "a boolean"
  | policy => "struct RetryPolicy"

/-- Why a value does not fit. -/
inductive Misfit where
  /-- The value is of another kind. -/
  | wrongKind (found : String) (wanted : Wanted)
  | outOfRange (n : Int) (wanted : Wanted)
  | missingField (name : String)
  /-- The array has too few items for a policy. -/
  | tooShort (length : Nat)
deriving DecidableEq, Repr

/-- The text of a misfit. -/
def Misfit.message : Misfit → String
  | wrongKind found wanted => "invalid type: " ++ found ++ ", expected " ++ wanted.words
  | outOfRange n wanted =>
    "invalid value: integer `" ++ toString n ++ "`, expected " ++ wanted.words
  | missingField name => "missing field `" ++ name ++ "`"
  | tooShort n =>
    "invalid length " ++ toString n ++ ", expected " ++ Wanted.policy.words ++ " with 3 elements"

/-- A value that does not fit, by its place, and why. -/
structure SchemaFault where
  mark : Nat
  misfit : Misfit
deriving DecidableEq, Repr

namespace Settings

/-- A value in the words of a report. -/
def described : Value → String
  | .scalar _ (.text s) => "string " ++ Text.quote s
  | .scalar _ (.integer n) => "integer `" ++ toString n ++ "`"
  | .scalar _ (.float x) => "floating point `" ++ x.text ++ "`"
  | .scalar _ (.boolean b) => "boolean `" ++ (if b then "true" else "false") ++ "`"
  | .scalar _ (.moment _) => "map"
  | .array .. => "sequence"
  | .table .. => "map"

/-- Reads a whole number up to a limit. -/
def readWhole (limit : Nat) (wanted : Wanted) (v : Value) : Except SchemaFault Nat :=
  match v with
  | .scalar m (.integer n) =>
    if 0 ≤ n ∧ n ≤ limit then .ok n.toNat else .error ⟨m, .outOfRange n wanted⟩
  | v => .error ⟨v.mark, .wrongKind (described v) wanted⟩

/-- Reads a switch. -/
def readFlag (v : Value) : Except SchemaFault Bool :=
  match v with
  | .scalar _ (.boolean b) => .ok b
  | v => .error ⟨v.mark, .wrongKind (described v) .flag⟩

/-- Reads a port. -/
def readPort (v : Value) : Except SchemaFault UInt16 :=
  (readWhole (UInt16.size - 1) .port v).map Nat.toUInt16

/-- Reads a number of attempts. -/
def readCount (v : Value) : Except SchemaFault UInt32 :=
  (readWhole (UInt32.size - 1) .count v).map Nat.toUInt32

/-- Reads a time. -/
def readTime (v : Value) : Except SchemaFault UInt64 :=
  (readWhole (UInt64.size - 1) .time v).map Nat.toUInt64

/-- The fields of a policy that have been read so far. -/
structure PolicyDraft where
  maxAttempts : Option UInt32 := none
  timeout : Option UInt64 := none
  delay : Option UInt64 := none

namespace PolicyDraft

/-- The draft with one entry of the table. -/
def add (d : PolicyDraft) (e : String × Value) : Except SchemaFault PolicyDraft := do
  if e.1 = "max_attempts" then return { d with maxAttempts := some (← readCount e.2) }
  else if e.1 = "timeout_ms" then return { d with timeout := some (← readTime e.2) }
  else if e.1 = "delay_ms" then return { d with delay := some (← readTime e.2) }
  else return d

/-- The policy, if no field is missing; the mark is that of its table. -/
def finish (d : PolicyDraft) (mark : Nat) : Except SchemaFault RetryPolicy :=
  match d.maxAttempts, d.timeout, d.delay with
  | none, _, _ => .error ⟨mark, .missingField "max_attempts"⟩
  | _, none, _ => .error ⟨mark, .missingField "timeout_ms"⟩
  | _, _, none => .error ⟨mark, .missingField "delay_ms"⟩
  | some n, some t, some p => .ok ⟨n, t, p⟩

end PolicyDraft

/-- Reads a policy from the items of an array. -/
def readItems (mark : Nat) : List Value → Except SchemaFault RetryPolicy
  | [] => .error ⟨mark, .tooShort 0⟩
  | a :: rest => do
    let n ← readCount a
    match rest with
    | [] => .error ⟨mark, .tooShort 1⟩
    | b :: rest =>
      let t ← readTime b
      match rest with
      | [] => .error ⟨mark, .tooShort 2⟩
      | c :: _ => return ⟨n, t, ← readTime c⟩

/-- Reads a policy. -/
def readPolicy (v : Value) : Except SchemaFault RetryPolicy :=
  match v with
  | .table m _ es => do (← es.foldlM PolicyDraft.add {}).finish m
  | .array m _ items => readItems m items
  | .scalar m (.moment _) => PolicyDraft.finish {} m
  | v => .error ⟨v.mark, .wrongKind (described v) .policy⟩

/-- The settings with one entry of the document. -/
def add (s : Settings) (e : String × Value) : Except SchemaFault Settings := do
  if e.1 = "port" then return { s with port := ← readPort e.2 }
  else if e.1 = "single_instance_enabled" then return { s with singleInstance := ← readFlag e.2 }
  else if e.1 = "log_to_file" then return { s with logToFile := ← readFlag e.2 }
  else if e.1 = "notify_retry" then return { s with notifyRetry := ← readPolicy e.2 }
  else if e.1 = "query_retry" then return { s with queryRetry := ← readPolicy e.2 }
  else return s

/-- The settings that the entries of a document give. -/
def ofEntries (es : Entries) : Except SchemaFault Settings := es.foldlM add {}

end Settings

/-- A place in a text: its line and its column, both counted from one. -/
structure Position where
  line : Nat
  column : Nat
deriving DecidableEq, Repr

/-- The place in a text that so many characters follow. -/
def Position.ofMark (cs : List Char) (mark : Nat) : Position :=
  let before := cs.take (cs.length - mark)
  ⟨before.count '\n' + 1, (before.reverse.takeWhile (· ≠ '\n')).length + 1⟩

/-- Why settings cannot be read from a text. -/
inductive ReadFault where
  /-- The text is no document. -/
  | malformed (place : Position)
  /-- A value of the document does not fit. -/
  | misfit (place : Position) (why : Misfit)
deriving DecidableEq, Repr

namespace ReadFault

/-- The first line of the text of a fault, which tells the place. -/
def headline (place : Position) : String :=
  "TOML parse error at line " ++ toString place.line ++ ", column " ++ toString place.column

/-- The text of a fault, without the lines in it that repeat the text around the place.  For a text that
is no document it goes no further than the place. -/
def message : ReadFault → String
  | malformed place => headline place
  | misfit place why => headline place ++ "\n" ++ why.message

end ReadFault

/-- Reads settings from a text. -/
def Settings.read (text : String) : Except ReadFault Settings :=
  let cs := text.toList
  match Toml.read cs with
  | .error mark => .error (.malformed (Position.ofMark cs mark))
  | .ok es =>
    match Settings.ofEntries es with
    | .error f => .error (.misfit (Position.ofMark cs f.mark) f.misfit)
    | .ok s => .ok s

end LaunchGuard
