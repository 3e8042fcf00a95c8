/-
# Paths

A path is spelled in bytes, as the system has it.  These are most often the bytes of a text, but need
not be.  Slashes separate the steps from one folder to the next.  Joining keeps the path as it is
spelled; the steps are read off it only when a file is looked up.

A piece of the path between slashes that is empty, or a single period, leads nowhere.  The ancestors
of a path pass over such pieces: they are the beginnings of the path that end in any other piece.
-/
import LaunchGuard.Text.Escaped
import LaunchGuard.Text.Utf8

namespace LaunchGuard

/-- How a path, or one name in it, is spelled. -/
structure Spelling where
  bytes : List UInt8
deriving DecidableEq, Repr

namespace Spelling

/-- The spelling of a text. -/
def ofString (s : String) : Spelling := ⟨Text.Utf8.bytesOf s⟩

instance : Coe String Spelling := ⟨ofString⟩

/-- The spelling as text, with U+FFFD for each maximal part that is none. -/
def text (s : Spelling) : String := String.ofList (Text.Utf8.decodeLossy s.bytes)

end Spelling

/-- What names a file or a folder. -/
structure Path where
  spelling : Spelling
deriving DecidableEq, Repr

/-- One step along a path. -/
inductive PathStep where
  /-- `.`, which stays in the folder. -/
  | stay
  /-- `..`, which leads to the folder above. -/
  | up
  /-- A name, which leads to what has that name in the folder. -/
  | down (name : Spelling)
deriving DecidableEq, Repr

namespace Path

/-- The byte of a slash. -/
def slash : UInt8 := 0x2f

/-- The byte of a period. -/
def period : UInt8 := 0x2e

/-- The bytes of a path. -/
def bytes (p : Path) : List UInt8 := p.spelling.bytes

/-- The path as text. -/
def text (p : Path) : String := p.spelling.text

/-- The path between double quotes, as log lines show it. -/
def quoted (p : Path) : String := String.ofList (Text.Quoted.encodeBytes p.bytes)

/-- The pieces between slashes. -/
def pieces : List UInt8 → List (List UInt8)
  | [] => [[]]
  | b :: bs =>
    if b = slash then [] :: pieces bs
    else match pieces bs with
      | [] => [[b]]
      | p :: ps => (b :: p) :: ps

/-- The step that a piece stands for; an empty piece stands for none. -/
def stepOf (piece : List UInt8) : Option PathStep :=
  if piece = [] then none
  else if piece = [period] then some .stay
  else if piece = [period, period] then some .up
  else some (.down ⟨piece⟩)

/-- The steps of a path. -/
def steps (p : Path) : List PathStep := (pieces p.bytes).filterMap stepOf

/-- Whether the path starts at the top of the file system. -/
def isAbsolute (p : Path) : Bool := p.bytes.head? = some slash

/-- Whether the path ends in a slash, and so can lead to a folder only. -/
def endsInSlash (p : Path) : Bool := p.bytes.getLast? = some slash

/-- The path that leads along `next` from the folder `p`; an absolute `next` stands alone. -/
def join (p : Path) (next : String) : Path :=
  let more := Text.Utf8.bytesOf next
  if isAbsolute ⟨next⟩ then ⟨next⟩
  else if p.bytes = [] ∨ p.endsInSlash then ⟨⟨p.bytes ++ more⟩⟩
  else ⟨⟨p.bytes ++ slash :: more⟩⟩

/-- Whether a piece leads nowhere. -/
def isIdle (piece : List UInt8) : Bool := piece = [] || piece = [period]

/-- The beginnings of a path that end in a piece that leads somewhere, the longest first.  Pieces
and beginnings are given from the back. -/
def beginnings : List (List UInt8) → List (List (List UInt8))
  | [] => []
  | p :: rest => if isIdle p then beginnings rest else (p :: rest) :: beginnings rest

/-- The path of pieces that are given from the back. -/
def ofReversed (ps : List (List UInt8)) : Path := ⟨⟨[slash].intercalate ps.reverse⟩⟩

/-- The paths to the folders on the way to a path, the nearest first. -/
def ancestors (p : Path) : List Path :=
  ((beginnings (pieces p.bytes).reverse).drop 1).map ofReversed

/-- Every beginning ends in a piece that leads somewhere. -/
theorem isIdle_of_mem_beginnings {ps qs : List (List UInt8)} (h : qs ∈ beginnings ps) :
    ∃ p rest, qs = p :: rest ∧ isIdle p = false := by
  induction ps with
  | nil => simp [beginnings] at h
  | cons p rest ih =>
    cases hp : isIdle p with
    | true => exact ih (by simpa [beginnings, hp] using h)
    | false =>
      rcases List.mem_cons.1 (by simpa [beginnings, hp] using h) with rfl | h
      · exact ⟨p, rest, rfl, hp⟩
      · exact ih h

end Path

end LaunchGuard
