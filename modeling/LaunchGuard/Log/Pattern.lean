/-
# Patterns

A directive may ask that a field have a value that a pattern fits.  Here is only decided whether a
text is a pattern at all.

Patterns are regular expressions.  They know no table of characters beyond ASCII: the classes of
digits, blanks and word characters, the bounds of words, and the disregard of case are open to a
pattern only where it has turned to bytes by the flag `-u`, and there it must not fit bytes that
make up no character.  No value contains a closing brace, so whatever needs one is left open.
-/
import LaunchGuard.Log.Pattern.Depth
import LaunchGuard.Log.Pattern.Atom
import LaunchGuard.Text.Classes

namespace LaunchGuard.Pattern

/-- What is read of a pattern. -/
structure Reading where
  /-- The innermost group that is open. -/
  group : Group := {}
  /-- The groups around it, the innermost first. -/
  outer : List Group := []
  /-- The sets that are open, the innermost first. -/
  sets : List OpenSet := []
  /-- The names of the groups. -/
  names : List (List Char) := []
deriving DecidableEq, Repr

/-- Whether a text is the name of a group. -/
def isName (cs : List Char) : Bool :=
  cs.head?.any (fun c => c = '_' || Text.isAlphabetic c) &&
    cs.all fun c => c ∈ ['_', '.', '[', ']'] || Text.isAlphanumeric c

namespace Reading

/-- Adds an item to the innermost group. -/
def add (r : Reading) (item : Item) : Reading := { r with group := r.group.add item }

/-- Opens a group, in which the flags hold. -/
def openGroup (r : Reading) (flags : Flags) : Reading :=
  { r with group := { flags }, outer := r.group :: r.outer }

/-- Closes the innermost group; the flags of the one around it hold again. -/
def closeGroup (r : Reading) : Option Reading :=
  match r.outer with
  | [] => none
  | g :: outer => some { r with group := g.add (.part (r.group.depth + 1)), outer }

/-- Reads the name of a group, up to the angle bracket that closes it. -/
def readName (r : Reading) (cs : List Char) : Option (Reading × List Char) :=
  let name := cs.takeWhile (· ≠ '>')
  match cs.dropWhile (· ≠ '>') with
  | [] => none
  | _ :: rest =>
    if isName name ∧ name ∉ r.names then
      some ({ r with names := name :: r.names }.openGroup r.group.flags, rest)
    else none

/-- Reads flags, for the rest of the group or for a group that they open. -/
def readFlags (r : Reading) (cs : List Char) : Option (Reading × List Char) := do
  let (marks, stop, rest) ← Flags.readMarks cs
  let flags := r.group.flags.change marks
  if stop = ':' then return (r.openGroup flags, rest)
  else if marks = [] then none
  else return ({ r with group := { r.group with flags } }.add .flags, rest)

/-- Reads what follows an opening parenthesis. -/
def readGroup (r : Reading) (cs : List Char) : Option (Reading × List Char) :=
  match r.group.flags.skip cs with
  | '?' :: 'P' :: '<' :: rest | '?' :: '<' :: rest => r.readName rest
  | '?' :: rest => r.readFlags rest
  | rest => some (r.openGroup r.group.flags, rest)

/-- Opens a set, which a circumflex turns round.  A set of bytes that is turned round would fit
bytes that make up no character. -/
def openSet (r : Reading) (cs : List Char) : Option (Reading × List Char) :=
  let opened := { r with sets := {} :: r.sets }
  match r.group.flags.skip cs with
  | '^' :: rest => if r.group.flags.bytes then none else some (opened, rest)
  | rest => some (opened, rest)

/-- Reads what starts with a character outside all sets.  A question mark right behind a repetition
belongs to it. -/
def readOutside (r : Reading) (c : Char) (rest : List Char) : Option (Reading × List Char) :=
  let f := r.group.flags
  match c with
  | '(' => r.readGroup rest
  | ')' => r.closeGroup.map (·, rest)
  | '|' => some ({ r with group := r.group.bar }, rest)
  | '[' => r.openSet rest
  | '{' => none
  | '*' | '+' | '?' => do
    let group ← r.group.repeat?
    return ({ r with group }, if rest.head? = some '?' then rest.tail else rest)
  | '.' => if f.bytes then none else some (r.add (.part 0), rest)
  | '^' | '$' => some (r.add (.part 0), rest)
  | '\\' => do
    let (atom, rest) ← readEscape f rest
    match atom with
    | .single _ => if f.knowsCase then return (r.add (.part 0), rest) else none
    | _ => return (r.add (.part 0), rest)
  | _ => if f.knowsCase then some (r.add (.part 0), rest) else none

/-- Closes a set, which becomes an item of the set around it, or else of the group. -/
def closeSet (r : Reading) (s : OpenSet) : List OpenSet → Reading
  | [] => { r with sets := [] }.add (.part (s.depth + 1))
  | t :: sets => { r with sets := t.add (s.depth + 1) :: sets }

/-- Reads what starts with a character in a set; `sets` are those around it.  At the start of a set
minus signs stand for themselves, and so does a closing bracket if none is there. -/
def readInSet (r : Reading) (s : OpenSet) (sets : List OpenSet) (c : Char) (rest : List Char) :
    Option (Reading × List Char) :=
  let f := r.group.flags
  let goOn := fun (s : OpenSet) => { r with sets := s :: sets }
  let settled := { s with fresh := false }
  if s.fresh && (c = '-' || (c = ']' && s.items = [])) then
    if f.allows c.toNat then some (goOn { s.add 0 with fresh := c = '-' }, rest) else none
  else
    match c, rest with
    | '[', _ =>
      match readNamed rest with
      | some (turned, rest) =>
        if f.allowsNamed turned then some (goOn (settled.add 0), rest) else none
      | none => (goOn settled).openSet rest
    | ']', _ => some (r.closeSet settled sets, rest)
    | '&', '&' :: rest | '-', '-' :: rest | '~', '~' :: rest => some (goOn settled.operate, rest)
    | _, _ => (readRange f (c :: rest)).map (goOn (settled.add 0), ·)

/-- Reads what starts with a character. -/
def next (r : Reading) (c : Char) (rest : List Char) : Option (Reading × List Char) :=
  match r.sets with
  | [] => r.readOutside c rest
  | s :: sets => r.readInSet s sets c rest

/-- Reads a text in at most so many steps. -/
def readAll : Nat → Reading → List Char → Option Reading
  | 0, _, _ => none
  | fuel + 1, r, cs =>
    match r.group.flags.skip cs with
    | [] => some r
    | c :: rest => do
      let (r, rest) ← r.next c rest
      readAll fuel r rest

/-- Whether a pattern may end here. -/
def isComplete (r : Reading) : Bool :=
  r.outer = [] && r.sets = [] && r.group.depth ≤ greatestDepth

end Reading

/-- Whether a text is a pattern.  Each step reads a character at least, so that there are enough
steps. -/
def accepts (cs : List Char) : Bool :=
  (Reading.readAll (cs.length + 1) {} cs).any Reading.isComplete

end LaunchGuard.Pattern
