/-
# Escapes and members of a set

A backslash takes from a mark its meaning, or gives one to a letter: a control character, the number
of a character, a class of characters, or a place between characters.

There is no table of characters beyond ASCII.  So the classes of digits, blanks and word characters,
and the bounds of words, are there only for bytes.  The opposites of these classes, and those of a
property, are there for neither: they would need the tables, or fit bytes that make up no character.

Between the brackets of a set stand characters, ranges of them, and named classes of ASCII such as
`[:digit:]`.  A minus sign makes a range of what is before and behind it, unless the set ends behind
it or another minus sign follows.
-/
import LaunchGuard.Log.Pattern.Flags

namespace LaunchGuard.Pattern

/-! ### Escapes -/

/-- What an escape or a character stands for. -/
inductive Atom where
  /-- The character with a number. -/
  | single (n : Nat)
  /-- A class of characters. -/
  | several
  /-- A place between characters. -/
  | place
deriving DecidableEq, Repr

/-- Whether a backslash takes its meaning from the character: all marks of ASCII but the angle
brackets. -/
def isEscapable (c : Char) : Bool := c.toNat < 0x80 && !c.isAlphanum && c ≠ '<' && c ≠ '>'

/-- The value of a hexadecimal digit. -/
def hexDigit? (c : Char) : Option Nat :=
  if c.isDigit then some (c.toNat - '0'.toNat)
  else if 'a' ≤ c ∧ c ≤ 'f' then some (c.toNat - 'a'.toNat + 10)
  else if 'A' ≤ c ∧ c ≤ 'F' then some (c.toNat - 'A'.toNat + 10)
  else none

/-- Reads so many hexadecimal digits, which go on from a value.  Blanks may follow each of them. -/
def readDigits (f : Flags) : Nat → Nat → List Char → Option (Nat × List Char)
  | 0, value, cs => some (value, cs)
  | _ + 1, _, [] => none
  | left + 1, value, c :: cs => do readDigits f left (16 * value + (← hexDigit? c)) (f.skip cs)

/-- Reads the number of a character, with so many digits. -/
def readNumber (f : Flags) (digits : Nat) (cs : List Char) : Option (Nat × List Char) := do
  let (n, rest) ← readDigits f digits 0 (f.skip cs)
  if n.isValidChar then return (n, rest) else none

/-- Reads what follows a backslash.  The number of two digits is that of a byte if the pattern is
about bytes, and those beyond ASCII make up no character. -/
def readEscape (f : Flags) : List Char → Option (Atom × List Char)
  | [] => none
  | c :: rest =>
    match c with
    | 'x' => do
      let (n, rest) ← readNumber f 2 rest
      if f.bytes && 0x80 ≤ n then none else return (.single n, rest)
    | 'u' => do
      let (n, rest) ← readNumber f 4 rest
      return (.single n, rest)
    | 'U' => do
      let (n, rest) ← readNumber f 8 rest
      return (.single n, rest)
    | 'a' => some (.single 0x07, rest)
    | 't' => some (.single 0x09, rest)
    | 'n' => some (.single 0x0a, rest)
    | 'v' => some (.single 0x0b, rest)
    | 'f' => some (.single 0x0c, rest)
    | 'r' => some (.single 0x0d, rest)
    | 'd' | 's' | 'w' => if f.bytes then some (.several, rest) else none
    | 'A' | 'z' => some (.place, rest)
    | 'b' | 'B' | '<' | '>' => if f.bytes then some (.place, rest) else none
    | _ => if isEscapable c then some (.single c.toNat, rest) else none

/-! ### Members of a set -/

/-- The names of the classes of ASCII. -/
def classNames : List String :=
  ["alnum", "alpha", "ascii", "blank", "cntrl", "digit", "graph", "lower", "print", "punct",
    "space", "upper", "word", "xdigit"]

/-- Reads a named class, which goes on behind an opening bracket: whether a circumflex turns it
round, and what follows it. -/
def readNamed : List Char → Option (Bool × List Char)
  | ':' :: cs =>
    let (turned, cs) := match cs with
      | '^' :: cs => (true, cs)
      | cs => (false, cs)
    match cs.dropWhile (· ≠ ':') with
    | ':' :: ']' :: rest =>
      if String.ofList (cs.takeWhile (· ≠ ':')) ∈ classNames then some (turned, rest) else none
    | _ => none
  | _ => none

/-- Whether a set may hold a named class; for bytes one that is turned round would fit bytes that
make up no character. -/
def Flags.allowsNamed (f : Flags) (turned : Bool) : Bool :=
  if f.bytes then !turned else !f.foldsCase

/-- Reads a character or an escape. -/
def readMember (f : Flags) : List Char → Option (Atom × List Char)
  | [] => none
  | '\\' :: rest => readEscape f rest
  | c :: rest => some (.single c.toNat, rest)

/-- Whether a set may hold what stands for itself. -/
def Flags.allowsAtom (f : Flags) : Atom → Bool
  | .single n => f.allows n
  | .several => true
  | .place => false

/-- Whether a set may hold the range between the two, which are characters in order. -/
def Flags.allowsRange (f : Flags) : Atom → Atom → Bool
  | .single m, .single n => f.allows m && f.allows n && m ≤ n
  | _, _ => false

/-- Reads a character, an escape or a range of a set, and tells what follows it. -/
def readRange (f : Flags) (cs : List Char) : Option (List Char) := do
  let (first, rest) ← readMember f cs
  let alone := if f.allowsAtom first then some (f.skip rest) else none
  match f.skip rest with
  | '-' :: behind =>
    if f.peek? behind = some ']' ∨ f.peek? behind = some '-' then alone
    else
      let (last, rest) ← readMember f (f.skip behind)
      if f.allowsRange first last then return rest else none
  | _ => alone

end LaunchGuard.Pattern
