/-
# The grammar of a TOML document

A document is a list of statements: headers, which open a table, and assignments, which give a key
its value.  Each reader takes its part from the front of the text and leaves the rest.

Keys may have a limited number of parts, and arrays and tables in brackets may be nested to the same
depth.
-/
import LaunchGuard.Toml.Value
import LaunchGuard.Toml.Plain
import LaunchGuard.Toml.Text

namespace LaunchGuard.Toml

/-- The greatest number of parts of a key, and the greatest depth of brackets. -/
def depthLimit : Nat := 79

/-- A statement of a document. -/
inductive Statement where
  /-- A header; a repeated one adds a table to an array. -/
  | header (mark : Nat) (repeated : Bool) (path : KeyPath)
  | assign (a : Assignment)

/-- The text after its leading spaces and tabs. -/
def skipSpaces (cs : List Char) : List Char := cs.dropWhile isSpace

/-- The text after its leading blanks, line breaks and comments; the flag says whether the text
starts inside a comment. -/
def skipTrivia : Bool → List Char → List Char
  | _, [] => []
  | comment, c :: cs =>
    if comment && isPlainChar c then skipTrivia true cs
    else if c = ' ' ∨ c = '\t' ∨ c = '\n' then skipTrivia false cs
    else if c = '#' then skipTrivia true cs
    else if c = '\r' ∧ cs.head? = some '\n' then skipTrivia false cs
    else c :: cs

/-- The text after the end of a line: spaces, a comment, and a line break unless the text ends. -/
def afterLine? (cs : List Char) : Option (List Char) :=
  let cs := skipSpaces cs
  let cs := if cs.head? = some '#' then cs.dropWhile isPlainChar else cs
  if cs = [] then some [] else afterNewline? cs

/-- The characters of a key without quotes. -/
def isKeyChar (c : Char) : Bool := c.isAlphanum || c = '-' || c = '_'

/-- Reads a part of a key. -/
def readKey (cs : List Char) : Option (Key × List Char) :=
  match readLine? cs with
  | some (name, rest) => some (⟨String.ofList name, cs.length⟩, rest)
  | none =>
    let name := cs.takeWhile isKeyChar
    if name = [] then none else some (⟨String.ofList name, cs.length⟩, cs.dropWhile isKeyChar)

/-- Reads a key of at most so many parts. -/
def readKeyPath : Nat → List Char → Option (KeyPath × List Char)
  | 0, _ => none
  | parts + 1, cs => do
    let (key, rest) ← readKey cs
    match skipSpaces rest with
    | '.' :: rest =>
      let (path, rest) ← readKeyPath parts (skipSpaces rest)
      return (⟨key :: path.above, path.last⟩, rest)
    | rest => return (⟨[], key⟩, rest)

/-- Reads a scalar. -/
def readScalar (cs : List Char) : Option (Value × List Char) :=
  match cs with
  | '"' :: _ | '\'' :: _ => do
    let (s, rest) ← readText? cs
    return (.scalar cs.length (.text (String.ofList s)), rest)
  | _ => do
    let (s, rest) ← readWord cs
    return (.scalar cs.length s, rest)

/-- A reader of values. -/
abbrev ValueReader := List Char → Option (Value × List Char)

/-- Reads the items of an array up to its closing bracket. -/
def readItems (item : ValueReader) : Nat → List Char → Option (List Value × List Char)
  | 0, _ => none
  | fuel + 1, cs =>
    match skipTrivia false cs with
    | ']' :: rest => some ([], rest)
    | cs => do
      let (v, rest) ← item cs
      match skipTrivia false rest with
      | ',' :: rest =>
        let (vs, rest) ← readItems item fuel rest
        return (v :: vs, rest)
      | ']' :: rest => return ([v], rest)
      | _ => none

/-- Reads an assignment. -/
def readAssignment (item : ValueReader) (cs : List Char) : Option (Assignment × List Char) := do
  let (path, rest) ← readKeyPath depthLimit cs
  match rest with
  | '=' :: rest =>
    let (v, rest) ← item (skipSpaces rest)
    return (⟨path, v⟩, rest)
  | _ => none

/-- Reads the assignments of a table in brackets up to the closing bracket. -/
def readAssignments (item : ValueReader) :
    Nat → List Char → Option (List Assignment × List Char)
  | 0, _ => none
  | fuel + 1, cs => do
    let (a, rest) ← readAssignment item (skipSpaces cs)
    match skipSpaces rest with
    | ',' :: rest =>
      let (as, rest) ← readAssignments item fuel rest
      return (a :: as, rest)
    | '}' :: rest => return ([a], rest)
    | _ => none

/-- Reads a value with at most so many levels of brackets. -/
def readValue : Nat → ValueReader
  | 0, cs => readScalar cs
  | depth + 1, cs =>
    match cs with
    | '[' :: rest => do
      let (items, rest) ← readItems (readValue depth) rest.length.succ rest
      return (.array cs.length .bracketed items, rest)
    | '{' :: rest =>
      match skipSpaces rest with
      | '}' :: rest => some (.table cs.length .bracketed [], rest)
      | _ => do
        let (as, rest) ← readAssignments (readValue depth) rest.length.succ rest
        let entries ← Entries.assignAll [] as
        return (.table cs.length .bracketed entries, rest)
    | _ => readScalar cs

/-- Reads a header after its opening brackets. -/
def readHeader (mark : Nat) (repeated : Bool) (cs : List Char) :
    Option (Statement × List Char) := do
  let (path, rest) ← readKeyPath depthLimit (skipSpaces cs)
  match repeated, rest with
  | false, ']' :: rest => return (.header mark repeated path, rest)
  | true, ']' :: ']' :: rest => return (.header mark repeated path, rest)
  | _, _ => none

/-- Reads a statement. -/
def readStatement (cs : List Char) : Option (Statement × List Char) :=
  match cs with
  | '[' :: '[' :: rest => readHeader cs.length true rest
  | '[' :: rest => readHeader cs.length false rest
  | _ => do
    let (a, rest) ← readAssignment (readValue depthLimit) cs
    return (.assign a, rest)

/-- Reads the statements of a document, each on a line of its own.  If one cannot be read, the
answer is the place where it starts. -/
def readStatements : Nat → List Char → Except Nat (List Statement)
  | 0, cs => .error cs.length
  | fuel + 1, cs =>
    let cs := skipTrivia false cs
    if cs = [] then .ok []
    else
      let step := do
        let (s, rest) ← readStatement cs
        let rest ← afterLine? rest
        return (s, rest)
      match step with
      | none => .error cs.length
      | some (s, rest) => (readStatements fuel rest).map (s :: ·)

end LaunchGuard.Toml
