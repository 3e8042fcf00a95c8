/-
# Which entries are shown

A filter is a list of directives.  Each sets the greatest rank of the entries that it lets through,
for all sources or for those whose name starts with its target.  The directive with the longest
target decides; of two with the same target it is the one that asks for a field, and then the later
one.

A filter is written as directives with commas between them.  A directive is

* a level, or a target: `info`, `runner`;
* a target and a level: `runner=info`;
* either of these with brackets after the target, which name a span, a field, or both:
  `[span{field}]=info`.

A directive for a span, or for a field with a value, bears on spans, which this program has none of.
The value is a number or a word, which are compared with that of the field, or a pattern, which has to
fit it.  Words, and numbers without a plus sign, are patterns too.

The marks of a directive are looked for behind the blanks before it, but its parts are cut at the
same distances from where it starts with these blanks.  So only a directive without blanks around
says what it seems to say, and a cut may even fall inside a character.
-/
import LaunchGuard.Log.Entry
import LaunchGuard.Log.Pattern
import LaunchGuard.Text.Utf8

namespace LaunchGuard

/-- The variable that holds the filter. -/
def filterVariable : String := "RUST_LOG"

/-- Why a text is no filter. -/
inductive FilterFault where
  /-- A directive is not written as it should be. -/
  | malformed
  /-- A directive would be cut inside a character. -/
  | torn
deriving DecidableEq, Repr

/-- A directive of a filter. -/
structure Directive where
  /-- The start of the names of the sources that it bears on. -/
  target : List Char
  /-- The greatest rank that it lets through. -/
  greatestRank : Nat
  /-- The field that it asks for. -/
  field : Option (List Char) := none
  /-- Whether it bears on spans, and so on no entry. -/
  spans : Bool := false
deriving DecidableEq, Repr

namespace FieldValue

/-- Whether a text is a decimal number without a sign, or a word for one that has no digits. -/
def isNumber (cs : List Char) : Bool :=
  let whole := cs.takeWhile Char.isDigit
  let afterWhole := cs.dropWhile Char.isDigit
  let (places, tail) := match afterWhole with
    | '.' :: rest => (rest.takeWhile Char.isDigit, rest.dropWhile Char.isDigit)
    | rest => ([], rest)
  let tailFits := match tail with
    | [] => true
    | e :: digits =>
      let digits := match digits with
        | '+' :: ds | '-' :: ds => ds
        | ds => ds
      (e = 'e' || e = 'E') && digits ≠ [] && digits.all Char.isDigit
  String.ofList (Text.lowerAscii cs) ∈ ["inf", "infinity", "nan"] ||
    ((whole ≠ [] || places ≠ []) && tailFits)

/-- Whether a text tells the value of a field: a pattern, or a number, which is no pattern if it
has a plus sign. -/
def isValue (cs : List Char) : Bool :=
  Pattern.accepts cs ||
    match cs with
    | '+' :: rest => isNumber rest
    | _ => false

end FieldValue

namespace Directive

/-- The number that a text of digits stands for; a plus sign may precede them. -/
def number? (word : List Char) : Option Nat :=
  let digits := match word with
    | '+' :: ds => ds
    | ds => ds
  if digits ≠ [] ∧ digits.all Char.isDigit then
    some (digits.foldl (fun n d => 10 * n + (d.toNat - '0'.toNat)) 0)
  else none

/-- The rank that a word or a number stands for. -/
def rankOf? (word : List Char) : Option Nat :=
  match number? word with
  | some n => if n ≤ Level.trace.rank then some n else none
  | none =>
    let word := String.ofList (Text.lowerAscii word)
    if word = "off" then some 0
    else if word = "error" then some Level.error.rank
    else if word = "warn" then some Level.warn.rank
    else if word = "info" then some Level.info.rank
    else if word = "debug" then some Level.debug.rank
    else if word = "trace" then some Level.trace.rank
    else none

/-- The first of some marks in a text: the bytes before it, the mark, and what follows it. -/
def findMark? (marks : List Char) : List Char → Option (Nat × Char × List Char)
  | [] => none
  | c :: cs =>
    if c ∈ marks then some (0, c, cs)
    else (findMark? marks cs).map fun found => (c.utf8Size + found.1, found.2)

/-- The part of a directive between two distances. -/
def part (piece : List Char) (start stop : Nat) : Except FilterFault (List Char) :=
  match Text.between? piece start stop with
  | some cs => .ok cs
  | none => .error .torn

/-- The rank that the word from a distance on stands for; without a word everything is let
through. -/
def rankFrom (piece : List Char) (start : Nat) : Except FilterFault Nat :=
  match Text.from? piece start with
  | none => .error .torn
  | some [] => .ok Level.trace.rank
  | some word =>
    match rankOf? word with
    | some rank => .ok rank
    | none => .error .malformed

/-- The rank that the end of a directive gives, which follows the brackets at a distance. -/
def rankAfter (piece : List Char) (start : Nat) : List Char → Except FilterFault Nat
  | [] => .ok Level.trace.rank
  | c :: _ => if c = '=' then rankFrom piece (start + 1) else .error .malformed

/-- Reads a field: its name, and whether a value is asked for. -/
def readField (text : List Char) : Except FilterFault (List Char × Bool) :=
  if text = [] then .error .malformed
  else
    match text.dropWhile (· ≠ '=') with
    | [] => .ok (text, false)
    | _ :: value =>
      if FieldValue.isValue (value.takeWhile (· ≠ '=')) then .ok (text.takeWhile (· ≠ '='), true)
      else .error .malformed

/-- Reads the brackets of a directive and what follows them; `rest` is the text behind the opening
bracket, at the distance `start`. -/
def readBrackets (piece target : List Char) (start : Nat) (rest : List Char) :
    Except FilterFault Directive :=
  match findMark? [']', '\x7b'] rest with
  | none => .error .malformed
  | some (n, mark, rest) => do
    let span ← part piece start (start + n)
    let start := start + n + 1
    if mark = ']' then
      return { target, greatestRank := ← rankAfter piece start rest, spans := true }
    else
      match findMark? ['\x7d'] rest with
      | none => .error .malformed
      | some (n, _, rest) =>
        let (field, valued) ← readField (← part piece start (start + n))
        match rest with
        | ']' :: rest =>
          let rank ← rankAfter piece (start + n + 2) rest
          return { target, greatestRank := rank, field, spans := span ≠ [] || valued }
        | _ => .error .malformed

/-- A directive without marks: a level, or else a target for which everything is let through. -/
def ofWord (word : List Char) : Directive :=
  match rankOf? word with
  | some rank => { target := [], greatestRank := rank }
  | none => { target := word, greatestRank := Level.trace.rank }

/-- Whether the character may start a directive that does not start with brackets. -/
def isStart (c : Char) : Bool := c ∈ ['-', ':', '_'] || Text.isAlphanumeric c

/-- Reads a directive. -/
def parse (piece : List Char) : Except FilterFault Directive :=
  match Text.trim piece with
  | [] => .error .malformed
  | c :: rest =>
    if c = '[' then readBrackets piece [] 1 rest
    else if !isStart c then .error .malformed
    else
      match findMark? ['=', '['] (c :: rest) with
      | none => .ok (ofWord piece)
      | some (n, mark, rest) => do
        let target ← part piece 0 n
        if mark = '=' then return { target, greatestRank := ← rankFrom piece (n + 1) }
        else readBrackets piece target (n + 1) rest

/-- Whether the directive bears on the entries of a source. -/
def covers (d : Directive) (s : Source) : Bool :=
  !d.spans && d.target.isPrefixOf s.path.toList && d.field.all Entry.fields.contains

/-- Whether another directive is at least as specific: its target is longer, or just as long and it
asks for a field if this one does. -/
def yields (d other : Directive) : Bool :=
  d.target.length < other.target.length ||
    (d.target.length = other.target.length && (d.field.isNone || other.field.isSome))

end Directive

/-- A filter: its directives in order. -/
abbrev Filter := List Directive

namespace Filter

/-- The filter that lets the program's own entries through up to the level of debugging. -/
def standard : Filter :=
  [{ target := Source.runner.path.toList, greatestRank := Level.debug.rank }]

/-- The filter without any directive lets errors through. -/
def errorsOnly : Filter := [{ target := [], greatestRank := Level.error.rank }]

/-- The pieces of a text between commas. -/
def pieces : List Char → List (List Char)
  | [] => [[]]
  | c :: cs =>
    if c = ',' then [] :: pieces cs
    else match pieces cs with
      | [] => [[c]]
      | p :: ps => (c :: p) :: ps

/-- Reads a filter; empty pieces do not count. -/
def parse (text : String) : Except FilterFault Filter := do
  let directives ← ((pieces text.toList).filter (· ≠ [])).mapM Directive.parse
  return if directives = [] then errorsOnly else directives

/-- The filter that a value of the variable asks for.  A missing or malformed one asks for the
standard filter; a torn one for none at all. -/
def ofValue? : Option String → Option Filter
  | none => some standard
  | some text =>
    match parse text with
    | .ok f => some f
    | .error .malformed => some standard
    | .error .torn => none

/-- The directive that decides for a source: the last one of the most specific. -/
def deciding? (f : Filter) (s : Source) : Option Directive :=
  (f.filter (·.covers s)).foldl (fun best d =>
    match best with
    | some b => if b.yields d then some d else some b
    | none => some d) none

/-- Whether an entry is shown. -/
def shows (f : Filter) (e : Entry) : Bool :=
  match f.deciding? e.source with
  | some d => e.level.rank ≤ d.greatestRank
  | none => false

end Filter

end LaunchGuard
