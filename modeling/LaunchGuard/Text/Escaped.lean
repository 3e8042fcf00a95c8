/-
# Escaped text

Text is shown in three forms.  The escaped form holds only the ASCII characters from the space to the
tilde: quotes and backslashes get a backslash before them, the tab, the carriage return and the line
feed have letters, and any other character is written by its hexadecimal number in braces.

Between double quotes more is left as it is: a double quote and a backslash get a backslash, four
controls have letters, and only what has no printable shape of its own is written by its number.
Bytes that are no text are written by their numbers, too.

A terminal may be shown everything but the controls that make it do more than show a text.
-/
import LaunchGuard.Text.Shapeless
import LaunchGuard.Text.Utf8

namespace LaunchGuard.Text

/-- A character by its number: `\u{…}` with lower-case hexadecimal digits. -/
def numbered (c : Char) : List Char :=
  ['\\', 'u', '{'] ++ Nat.toDigits 16 c.toNat ++ ['}']

namespace Escaped

/-- The escaped form of one character. -/
def encodeChar (c : Char) : List Char :=
  if c = '\t' then ['\\', 't']
  else if c = '\r' then ['\\', 'r']
  else if c = '\n' then ['\\', 'n']
  else if c = '\'' ∨ c = '"' ∨ c = '\\' then ['\\', c]
  else if ' ' ≤ c ∧ c ≤ '~' then [c]
  else numbered c

/-- The escaped form of a text. -/
def encode (cs : List Char) : List Char := cs.flatMap encodeChar

end Escaped

namespace Quoted

/-- The form of one character between the quotes. -/
def encodeChar (c : Char) : List Char :=
  if c = '\x00' then ['\\', '0']
  else if c = '\t' then ['\\', 't']
  else if c = '\r' then ['\\', 'r']
  else if c = '\n' then ['\\', 'n']
  else if c = '"' ∨ c = '\\' then ['\\', c]
  else if isExtender c ∨ isUnprintable c then numbered c
  else [c]

/-- The text between double quotes. -/
def encode (cs : List Char) : List Char := '"' :: (cs.flatMap encodeChar ++ ['"'])

/-- A byte by its number: `\xNN` with upper-case hexadecimal digits. -/
def numberedByte (b : UInt8) : List Char :=
  ['\\', 'x'] ++ [b.toNat / 16, b.toNat % 16].map fun n => (Nat.digitChar n).toUpper

/-- The form of bytes between the quotes.  Those in `pending` belong to the character under way; if
it is cut off they are no text. -/
def encodeFrom (p : Utf8.Progress) (pending : List UInt8) : List UInt8 → List Char
  | [] => pending.flatMap numberedByte
  | b :: bs =>
    match p.step b with
    | ([], next) => encodeFrom next (pending ++ [b]) bs
    | (some c :: _, next) => encodeChar c ++ encodeFrom next [] bs
    | (none :: some c :: _, next) =>
      pending.flatMap numberedByte ++ encodeChar c ++ encodeFrom next [] bs
    | (none :: _, .ready) => (pending ++ [b]).flatMap numberedByte ++ encodeFrom .ready [] bs
    | (none :: _, next) => pending.flatMap numberedByte ++ encodeFrom next [b] bs

/-- The text of bytes between double quotes. -/
def encodeBytes (bs : List UInt8) : List Char := '"' :: (encodeFrom .ready [] bs ++ ['"'])

end Quoted

/-- The string between double quotes. -/
def quote (s : String) : String := String.ofList (Quoted.encode s.toList)

/-- The string between double quotes with `Some`, or `None` for an absent one. -/
def quote? : Option String → String
  | none => "None"
  | some s => "Some(" ++ quote s ++ ")"

/-- The controls of ASCII that a terminal acts upon. -/
def terminalControls : List Char := ['\x1b', '\x07', '\x08', '\x0c', '\x7f']

/-- A character as it is shown on a terminal. -/
def tamedChar (c : Char) : List Char :=
  if c ∈ terminalControls then
    ['\\', 'x', Nat.digitChar (c.toNat / 16), Nat.digitChar (c.toNat % 16)]
  else if 0x80 ≤ c.toNat ∧ c.toNat ≤ 0x9f then numbered c
  else [c]

/-- A text as it is shown on a terminal. -/
def tamed (s : String) : String := String.ofList (s.toList.flatMap tamedChar)

end LaunchGuard.Text
