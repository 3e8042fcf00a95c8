/-
# Documents

The statements of a document fall into sections: the assignments before the first header, and each
header with the assignments after it.  A section is put into the document under the tables that its
header names on the way.

A header may not name a table twice.  It may name a table that an earlier header implied; the table
then keeps its entries and moves to the end of the table around it.
-/
import LaunchGuard.Toml.Grammar

namespace LaunchGuard.Toml

/-- A header and the assignments after it. -/
structure Section where
  mark : Nat
  repeated : Bool
  path : KeyPath
  body : List Assignment

/-- The assignments before the first header, and the sections. -/
def sections : List Statement → List Assignment × List Section
  | [] => ([], [])
  | .assign a :: rest => (a :: (sections rest).1, (sections rest).2)
  | .header mark repeated path :: rest =>
    ([], ⟨mark, repeated, path, (sections rest).1⟩ :: (sections rest).2)

namespace Section

/-- The entries with the section's own table among them. -/
def place (s : Section) (es : Entries) : Option Entries :=
  let name := s.path.last.name
  if s.repeated then do
    let table : Value := .table s.mark .header (← Entries.assignAll [] s.body)
    match es.lookup name with
    | none => return es ++ [(name, .array s.mark .header [table])]
    | some (.array mark .header items) =>
      return es.set name (.array mark .header (items ++ [table]))
    | some _ => none
  else
    match es.lookup name with
    | none => do
      return es ++ [(name, .table s.mark .header (← Entries.assignAll [] s.body))]
    | some (.table _ .implied inner) => do
      return es.filter (·.1 ≠ name) ++
        [(name, .table s.mark .header (← Entries.assignAll inner s.body))]
    | some _ => none

/-- The entries with the section put in below the tables that its header names on the way. -/
def placeUnder (s : Section) : List Key → Entries → Option Entries
  | [], es => s.place es
  | k :: ks, es =>
    match es.lookup k.name with
    | none => do
      let inner ← s.placeUnder ks []
      return es ++ [(k.name, .table k.mark .implied inner)]
    | some (.table _ .bracketed _) => none
    | some child => do
      let inner ← child.inside?
      let inner ← s.placeUnder ks inner
      return es.set k.name (child.withInside inner)

end Section

/-- The entries that the statements of a document make. -/
def build (ss : List Statement) : Option Entries := do
  let (start, rest) := sections ss
  let es ← Entries.assignAll [] start
  rest.foldlM (fun es s => s.placeUnder s.path.above es) es

/-- Reads a document.  If it is none, the answer is a place where it fails. -/
def read (cs : List Char) : Except Nat Entries := do
  let body := if cs.head? = some '\uFEFF' then cs.tail else cs
  let ss ← readStatements body.length.succ body
  match build ss with
  | some es => .ok es
  | none => .error cs.length

end LaunchGuard.Toml
