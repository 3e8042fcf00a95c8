/-
# Numbers

Digits have values in bases up to sixteen, and a run of digits has the value that its base gives
it.  A run may be broken into groups by single underscores, which do not count.

A binary number of 64 bits, if it is finite, is a mantissa of at most 53 bits times a power of two,
with the least power that the format has as a lower bound.  A decimal is read as the number nearest
to it, an even mantissa winning a tie.  A number is written with the fewest digits that are read back
as the same number, the nearest such decimal or the greater of two, and always in positional notation
with a decimal point.  Everything is exact arithmetic on natural numbers.
-/
namespace LaunchGuard

/-! ### Digits -/

namespace Number

/-- Whether the character is a digit of the base; letters stand for digits beyond nine. -/
def isDigitOf (base : Nat) (c : Char) : Bool :=
  let n := c.toNat
  if c.isDigit then n - 48 < base
  else if 'a' ≤ c ∧ c ≤ 'f' then n - 87 < base
  else if 'A' ≤ c ∧ c ≤ 'F' then n - 55 < base
  else false

/-- The value of a digit. -/
def digitValue (c : Char) : Nat :=
  if c.isDigit then c.toNat - 48 else if 'a' ≤ c then c.toNat - 87 else c.toNat - 55

/-- The value of a run of digits, the most significant first. -/
def ofDigits (base : Nat) (ds : List Char) : Nat :=
  ds.foldl (fun n c => n * base + digitValue c) 0

/-- The digits of a nonempty run in which single underscores may part digit from digit. -/
def ungrouped (base : Nat) : List Char → Option (List Char)
  | [] => none
  | c :: cs =>
    if isDigitOf base c then
      match cs with
      | [] => some [c]
      | '_' :: rest => (ungrouped base rest).map (c :: ·)
      | rest => (ungrouped base rest).map (c :: ·)
    else none

/-- The digits of a decimal whole number without a sign, which has no needless leading zero. -/
def decimal? (cs : List Char) : Option (List Char) :=
  match ungrouped 10 cs with
  | some ('0' :: _ :: _) => none
  | ds => ds

/-- Whether there is a minus, and what follows the sign. -/
def signed : List Char → Bool × List Char
  | '-' :: rest => (true, rest)
  | '+' :: rest => (false, rest)
  | rest => (false, rest)

end Number

/-! ### Binary numbers -/

/-- A binary number of 64 bits. -/
inductive Binary64 where
  | notANumber
  | infinite (negative : Bool)
  /-- The number `mantissa * 2 ^ exponent`, or its opposite. -/
  | finite (negative : Bool) (mantissa : Nat) (exponent : Int)
deriving DecidableEq, Repr

namespace Binary64

/-- The least exponent. -/
def leastExponent : Int := -1074

/-- The greatest exponent. -/
def greatestExponent : Int := 971

/-- The bound of the mantissas, which have 53 bits. -/
def mantissaBound : Nat := 0x20000000000000

/-- The two sides of the fraction `num / den` divided by `base ^ e`. -/
def scaled (base num den : Nat) (e : Int) : Nat × Nat :=
  if 0 ≤ e then (num, den * base.pow e.toNat) else (num * base.pow (-e).toNat, den)

/-- The whole number nearest to a fraction, the even one of two that are equally near. -/
def roundToEven (num den : Nat) : Nat :=
  let q := num / den
  let twice := 2 * (num % den)
  if twice < den then q
  else if den < twice then q + 1
  else q + q % 2

/-- The number nearest to the fraction `num / den`. -/
def nearest (negative : Bool) (num den : Nat) : Binary64 :=
  if num = 0 then finite negative 0 leastExponent
  else
    let guess : Int := max leastExponent ((num.log2 : Int) - den.log2 - 53)
    let fits (e : Int) : Bool := let (n, d) := scaled 2 num den e; n / d < mantissaBound
    let e := if fits guess then guess else guess + 1
    let (n, d) := scaled 2 num den e
    let m := roundToEven n d
    let (m, e) := if m = mantissaBound then (m / 2, e + 1) else (m, e)
    if greatestExponent < e then infinite negative else finite negative m e

/-- The number nearest to a decimal: the whole number `digits` times a power of ten. -/
def ofDecimal (negative : Bool) (digits : List Char) (exponent : Int) : Binary64 :=
  let n := Number.ofDigits 10 digits
  let magnitude : Int := (Nat.toDigits 10 n).length + exponent
  if n = 0 ∨ magnitude < -400 then finite negative 0 leastExponent
  else if 400 < magnitude then infinite negative
  else if 0 ≤ exponent then nearest negative (n * Nat.pow 10 exponent.toNat) 1
  else nearest negative n (Nat.pow 10 (-exponent).toNat)

/-- The numbers that are read as a given one lie between `low` and `high`, and `value` is the
number itself, all of them over `den`; the two ends belong to them if `closed` says so. -/
structure Span where
  low : Nat
  value : Nat
  high : Nat
  den : Nat
  closed : Bool

/-- The span of the number `m * 2 ^ e`, in quarters of the unit of its mantissa.  Below a power of
two the numbers lie twice as close. -/
def span (m : Nat) (e : Int) : Span :=
  let below := if m = mantissaBound / 2 ∧ leastExponent < e then 1 else 2
  let unit := Nat.pow 2 (e - 2).toNat
  ⟨(4 * m - below) * unit, 4 * m * unit, (4 * m + 2) * unit, Nat.pow 2 (2 - e).toNat, m % 2 == 0⟩

/-- Whether `c * 10 ^ k` lies in the span. -/
def Span.holds (s : Span) (k : Int) (c : Nat) : Bool :=
  let (low, d) := scaled 10 s.low s.den k
  let (high, _) := scaled 10 s.high s.den k
  if s.closed then low ≤ c * d && c * d ≤ high else low < c * d && c * d < high

/-- The multiple of `10 ^ k` that lies in the span and is nearest to its number; the greater one
of two that are equally near. -/
def Span.onGrid (s : Span) (k : Int) : Option Nat :=
  let (v, d) := scaled 10 s.value s.den k
  let c := v / d
  match c ≠ 0 && s.holds k c, s.holds k (c + 1) with
  | true, true => some (if 2 * (v % d) < d then c else c + 1)
  | true, false => some c
  | false, true => some (c + 1)
  | false, false => none

/-- The shortest decimal in the span: looks for one on finer and finer grids. -/
def Span.shortest (s : Span) : Nat → Int → Nat × Int
  | 0, k => (0, k)
  | fuel + 1, k =>
    match s.onGrid k with
    | some c => (c, k)
    | none => s.shortest fuel (k - 1)

/-- The decimal `c * 10 ^ k` in positional notation with a decimal point. -/
def positional (c : Nat) (k : Int) : List Char :=
  let ds := Nat.toDigits 10 c
  if 0 ≤ k then ds ++ List.replicate k.toNat '0' ++ ['.', '0']
  else
    let places := (-k).toNat
    if places < ds.length then
      ds.take (ds.length - places) ++ '.' :: ds.drop (ds.length - places)
    else '0' :: '.' :: List.replicate (places - ds.length) '0' ++ ds

/-- The text of a mantissa and an exponent. -/
def finiteText (m : Nat) (e : Int) : List Char :=
  if m = 0 then ['0', '.', '0']
  else
    let s := span m e
    let top : Int := (Nat.toDigits 10 s.value).length - (Nat.toDigits 10 s.den).length + 1
    let (c, k) := s.shortest 24 top
    positional c k

/-- The text of a number. -/
def text : Binary64 → String
  | notANumber => "NaN"
  | infinite negative => if negative then "-inf" else "inf"
  | finite negative m e => (if negative then "-" else "") ++ String.ofList (finiteText m e)

end Binary64

end LaunchGuard
