/-
# Text as bytes

Characters are written as bytes in UTF-8, and bytes are read back one at a time by a small
machine.  While a character of several bytes is being read the machine knows how many bytes are
missing and in which range the next one must lie; the ranges leave out overlong forms, surrogates
and values beyond the last character.  A byte that cannot continue the character ends it as an
invalid part, and is then read afresh.

Reading therefore yields a list of parts, each a character or the mark of a maximal invalid part.
A strict reading wants characters only, and a lossy one puts U+FFFD for each invalid part.

Distances into a text are counted in bytes from its start.  A text can be cut where a character ends
or where it starts itself, and nowhere else: a distance that falls inside a character, or beyond the
end, gives no parts.
-/
namespace LaunchGuard.Text

namespace Utf8

/-- The bytes of a text. -/
def encode (cs : List Char) : List UInt8 := cs.flatMap String.utf8EncodeChar

/-- What the reader knows between two bytes. -/
inductive Progress where
  /-- No character is under way. -/
  | ready
  /-- A character with the bits `gathered` so far wants `missing` further bytes, the next of them
  between `least` and `greatest`. -/
  | awaiting (missing least greatest gathered : Nat)
deriving DecidableEq, Repr

namespace Progress

/-- Reads a byte that begins a character. -/
def begin (b : UInt8) : List (Option Char) × Progress :=
  let n := b.toNat
  if n < 0x80 then ([some (Char.ofNat n)], .ready)
  else if n < 0xc2 then ([none], .ready)
  else if n < 0xe0 then ([], .awaiting 1 0x80 0xbf (n - 0xc0))
  else if n = 0xe0 then ([], .awaiting 2 0xa0 0xbf 0)
  else if n = 0xed then ([], .awaiting 2 0x80 0x9f 0xd)
  else if n < 0xf0 then ([], .awaiting 2 0x80 0xbf (n - 0xe0))
  else if n = 0xf0 then ([], .awaiting 3 0x90 0xbf 0)
  else if n < 0xf4 then ([], .awaiting 3 0x80 0xbf (n - 0xf0))
  else if n = 0xf4 then ([], .awaiting 3 0x80 0x8f 4)
  else ([none], .ready)

/-- Reads one byte: the parts that it completes and what is known after it. -/
def step : Progress → UInt8 → List (Option Char) × Progress
  | ready, b => begin b
  | awaiting missing least greatest gathered, b =>
    if least ≤ b.toNat ∧ b.toNat ≤ greatest then
      let gathered := gathered * 64 + (b.toNat - 0x80)
      if missing ≤ 1 then ([some (Char.ofNat gathered)], .ready)
      else ([], .awaiting (missing - 1) 0x80 0xbf gathered)
    else
      let (parts, next) := begin b
      (none :: parts, next)

/-- The part that the end of the bytes completes: a character under way is cut off. -/
def finish : Progress → List (Option Char)
  | ready => []
  | awaiting .. => [none]

end Progress

/-- The parts of the bytes, read from what is known so far. -/
def partsFrom (p : Progress) : List UInt8 → List (Option Char)
  | [] => p.finish
  | b :: bs => (p.step b).1 ++ partsFrom (p.step b).2 bs

/-- The parts of the bytes: characters, and `none` for each maximal invalid part. -/
def parts (bs : List UInt8) : List (Option Char) := partsFrom .ready bs

/-- The text of bytes that are valid throughout. -/
def decode? (bs : List UInt8) : Option (List Char) := (parts bs).mapM id

/-- The text of any bytes, with U+FFFD for each maximal invalid part. -/
def decodeLossy (bs : List UInt8) : List Char := (parts bs).map (·.getD '\uFFFD')

/-- The bytes of a string. -/
def bytesOf (s : String) : List UInt8 := encode s.toList

@[simp] theorem encode_nil : encode [] = [] := rfl

@[simp] theorem encode_cons (c : Char) (cs : List Char) :
    encode (c :: cs) = String.utf8EncodeChar c ++ encode cs := rfl

@[simp] theorem encode_append (cs ds : List Char) : encode (cs ++ ds) = encode cs ++ encode ds := by
  simp [encode]

@[simp] theorem partsFrom_nil (p : Progress) : partsFrom p [] = p.finish := rfl

@[simp] theorem partsFrom_cons (p : Progress) (b : UInt8) (bs : List UInt8) :
    partsFrom p (b :: bs) = (p.step b).1 ++ partsFrom (p.step b).2 bs := rfl

end Utf8

/-- The number of bytes of a text. -/
def size : List Char → Nat
  | [] => 0
  | c :: cs => c.utf8Size + size cs

/-- The parts of a text before and after a distance. -/
def cut? : List Char → Nat → Option (List Char × List Char)
  | cs, 0 => some ([], cs)
  | [], _ + 1 => none
  | c :: cs, n + 1 =>
    if c.utf8Size ≤ n + 1 then
      (cut? cs (n + 1 - c.utf8Size)).map fun parts => (c :: parts.1, parts.2)
    else none

/-- The part of a text between two distances. -/
def between? (cs : List Char) (start stop : Nat) : Option (List Char) := do
  let (front, _) ← cut? cs stop
  let (_, part) ← cut? front start
  return part

/-- The part of a text from a distance on. -/
def from? (cs : List Char) (start : Nat) : Option (List Char) := (cut? cs start).map (·.2)

end LaunchGuard.Text
