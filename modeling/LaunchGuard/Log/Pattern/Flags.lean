/-
# Flags of a pattern

Flags say how the characters of a pattern are read.  A pattern sets and clears them by letters after
`(?`, for the rest of the group or for a group of their own:

* `x` lets blanks and comments stand between its parts;
* `i` disregards the case of letters;
* `u`, which is set at first, makes the pattern one about characters, and not about bytes.

The other letters bear only on what a pattern fits.
-/
import LaunchGuard.Text.Classes

namespace LaunchGuard.Pattern

/-- How the characters of a group are read. -/
structure Flags where
  /-- Whether blanks and comments do not count. -/
  spaced : Bool := false
  /-- Whether the case of letters does not count. -/
  foldsCase : Bool := false
  /-- Whether the pattern is about bytes. -/
  bytes : Bool := false
deriving DecidableEq, Repr

namespace Flags

/-- The letters of the flags. -/
def letters : List Char := ['i', 'm', 's', 'U', 'u', 'R', 'x']

/-- Sets or clears the flag of a letter. -/
def set (f : Flags) (letter : Char) (on : Bool) : Flags :=
  match letter with
  | 'x' => { f with spaced := on }
  | 'i' => { f with foldsCase := on }
  | 'u' => { f with bytes := !on }
  | _ => f

/-- Sets the flags whose letters stand before the minus sign, and clears those behind it. -/
def change (f : Flags) (marks : List Char) : Flags :=
  (marks.dropWhile (· ≠ '-')).foldl (·.set · false)
    ((marks.takeWhile (· ≠ '-')).foldl (·.set · true) f)

/-- Whether a list of marks is one of flags: letters and at most one minus sign, which is not the
last of them, and none twice. -/
def areMarks (marks : List Char) : Bool :=
  marks.all (· ∈ '-' :: letters) && decide marks.Nodup && marks.getLast? ≠ some '-'

/-- Reads the marks of flags, up to the colon or the parenthesis that ends them: the marks, this end
and what follows it. -/
def readMarks (cs : List Char) : Option (List Char × Char × List Char) :=
  let isEnd := fun c => c = ':' || c = ')'
  match cs.dropWhile (!isEnd ·) with
  | [] => none
  | stop :: rest =>
    let marks := cs.takeWhile (!isEnd ·)
    if areMarks marks then some (marks, stop, rest) else none

/-- Whether a character may stand for itself; without tables its other case is not known. -/
def knowsCase (f : Flags) : Bool := !f.foldsCase || f.bytes

/-- Whether a set may hold the character with a number; a set of bytes holds those of ASCII only. -/
def allows (f : Flags) (n : Nat) : Bool := if f.bytes then n < 0x80 else !f.foldsCase

/-- The text behind the blanks and comments at its start.  A comment goes from a number sign to the
end of the line. -/
def pastBlanks (inComment : Bool) : List Char → List Char
  | [] => []
  | c :: cs =>
    if inComment then pastBlanks (c ≠ '\n') cs
    else if Text.isBlank c then pastBlanks false cs
    else if c = '#' then pastBlanks true cs
    else c :: cs

/-- The text from the next character on that counts. -/
def skip (f : Flags) (cs : List Char) : List Char := if f.spaced then pastBlanks false cs else cs

/-- The next character that is no blank, nor the first number sign. -/
def visible? (inComment : Bool) : List Char → Option Char
  | [] => none
  | c :: cs =>
    if Text.isBlank c then visible? inComment cs
    else if c = '#' && !inComment then visible? true cs
    else some c

/-- The character by which it is seen what a minus sign in a set stands for; `cs` is the text behind
the sign.  It is the next one that is visible.  So one in a comment may be seen, and where none is
visible it is the blank that comes next. -/
def peek? (f : Flags) (cs : List Char) : Option Char :=
  if f.spaced then (visible? false cs).or cs.head? else cs.head?

end Flags

end LaunchGuard.Pattern
