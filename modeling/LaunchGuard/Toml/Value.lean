/-
# Values of a TOML document

A document is a table, and a table is a list of entries in the order in which they were made.
Every value remembers where it starts: its mark is the number of characters from there to the end
of the document.  Tables and arrays remember how they came about, which decides what later lines of
the document may add to them.

A key has one or several parts: the parts before the last lead to a table, which is made on the way
if it is missing, and the last part names a value in it.  Each key may be given a value once.  Dotted
keys may not add to a table that a header names, nor to one in brackets.  They may lead through a
table that headers only imply, but not end there.
-/
import LaunchGuard.Number

namespace LaunchGuard.Toml

/-! ### Values -/

/-- A value without parts. -/
inductive Scalar where
  | text (s : String)
  | integer (n : Int)
  | float (x : Binary64)
  | boolean (b : Bool)
  /-- A date, a time or both, as it is written. -/
  | moment (written : String)
deriving DecidableEq, Repr

/-- How a table or an array came about. -/
inductive Origin where
  /-- A header names it. -/
  | header
  /-- A header names something inside it. -/
  | implied
  /-- A dotted key leads through it. -/
  | dotted
  /-- It is written in brackets as the value of a key. -/
  | bracketed
deriving DecidableEq, Repr

/-- A value of a document. -/
inductive Value where
  | scalar (mark : Nat) (content : Scalar)
  | array (mark : Nat) (origin : Origin) (items : List Value)
  | table (mark : Nat) (origin : Origin) (entries : List (String × Value))

/-- The entries of a table. -/
abbrev Entries := List (String × Value)

/-- Replaces the value of a key that is there. -/
def Entries.set (es : Entries) (name : String) (v : Value) : Entries :=
  es.map fun e => if e.1 = name then (name, v) else e

namespace Value

/-- Where the value starts. -/
def mark : Value → Nat
  | scalar m _ => m
  | array m _ _ => m
  | table m _ _ => m

/-- The entries that a longer key leads to: those of the table itself, or those of the last table
under a repeated header. -/
def inside? : Value → Option Entries
  | table _ _ es => some es
  | array _ .header items =>
    match items.getLast? with
    | some (table _ _ es) => some es
    | _ => none
  | _ => none

/-- The value with other entries in the place that a longer key leads to. -/
def withInside (v : Value) (es : Entries) : Value :=
  match v with
  | table m o _ => table m o es
  | array m .header items =>
    match items.getLast? with
    | some (table m' o' _) => array m .header (items.dropLast ++ [table m' o' es])
    | _ => v
  | _ => v

end Value

/-! ### Assignments -/

/-- A part of a key, with the place where it starts. -/
structure Key where
  name : String
  mark : Nat
deriving DecidableEq, Repr

/-- A key with its parts: those that lead to a table, and the last one, which is looked up there. -/
structure KeyPath where
  above : List Key
  last : Key
deriving DecidableEq, Repr

/-- A key and its value. -/
structure Assignment where
  path : KeyPath
  value : Value

/-- Whether dotted keys may lead into a value, when the parts `ks` are to follow inside. -/
def Value.admits (v : Value) (ks : List Key) : Bool :=
  match v with
  | .table _ .dotted _ => true
  | .table _ .implied _ | .array _ .header _ => !ks.isEmpty
  | _ => false

/-- Gives the key `last` its value, below the parts of the key that lead to it. -/
def Entries.assign (last : Key) (v : Value) : List Key → Entries → Option Entries
  | [], es => if (es.lookup last.name).isSome then none else some (es ++ [(last.name, v)])
  | k :: ks, es =>
    match es.lookup k.name with
    | none => do
      let inner ← assign last v ks []
      return es ++ [(k.name, .table k.mark .dotted inner)]
    | some child =>
      if child.admits ks then do
        let inner ← child.inside?
        let inner ← assign last v ks inner
        return es.set k.name (child.withInside inner)
      else none

/-- Makes assignments one after the other. -/
def Entries.assignAll (es : Entries) (as : List Assignment) : Option Entries :=
  as.foldlM (fun es a => es.assign a.path.last a.value a.path.above) es

end LaunchGuard.Toml
