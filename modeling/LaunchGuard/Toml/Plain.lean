/-
# Scalars without quotes

Booleans, numbers, dates and times are words of letters, digits and a few signs, and the word alone
decides which of them it is.  Whole numbers must fit into 64 bits with a sign.  A number with a
fraction or an exponent is rounded; one that is too large for a positive number is refused.
-/
import LaunchGuard.Toml.Value

namespace LaunchGuard.Toml

/-- The characters of a word. -/
def isWordChar (c : Char) : Bool :=
  c.isAlphanum || c = '+' || c = '-' || c = '_' || c = '.' || c = ':'

/-- Whether a whole number fits into 64 bits with a sign. -/
def inRange (n : Int) : Bool := -0x8000000000000000 ≤ n && n < 0x8000000000000000

/-- The whole number that a word stands for, before its range is checked. -/
def whole? : List Char → Option Int
  | '0' :: 'x' :: cs => (Number.ungrouped 16 cs).map fun ds => (Number.ofDigits 16 ds : Int)
  | '0' :: 'o' :: cs => (Number.ungrouped 8 cs).map fun ds => (Number.ofDigits 8 ds : Int)
  | '0' :: 'b' :: cs => (Number.ungrouped 2 cs).map fun ds => (Number.ofDigits 2 ds : Int)
  | cs =>
    let (negative, cs) := Number.signed cs
    (Number.decimal? cs).map fun ds =>
      let n : Int := Number.ofDigits 10 ds
      if negative then -n else n

/-- The integer that a word stands for. -/
def integer? (word : List Char) : Option Int :=
  match whole? word with
  | some n => if inRange n then some n else none
  | none => none

/-- The exponent that follows the letter `e`. -/
def exponent? (cs : List Char) : Option Int :=
  let (negative, cs) := Number.signed cs
  (Number.ungrouped 10 cs).map fun ds =>
    let n : Int := Number.ofDigits 10 ds
    if negative then -n else n

/-- Whether a character is the letter before an exponent. -/
def isExponentLetter (c : Char) : Bool := c = 'e' || c = 'E'

/-- The number that a whole part, a fraction and an exponent stand for, each as it is written; the
fraction and the exponent may be missing, but not both. -/
def decimalFloat? (negative : Bool) (cs : List Char) : Option Binary64 := do
  let significand := cs.takeWhile (!isExponentLetter ·)
  let tail := cs.dropWhile (!isExponentLetter ·)
  let wholePart ← Number.decimal? (significand.takeWhile (· ≠ '.'))
  let fraction ← match significand.dropWhile (· ≠ '.') with
    | [] => if tail = [] then none else some []
    | _ :: ds => Number.ungrouped 10 ds
  let exponent ← match tail with
    | [] => some 0
    | _ :: cs => exponent? cs
  let x := Binary64.ofDecimal negative (wholePart ++ fraction) (exponent - fraction.length)
  if x = .infinite false then none else some x

/-- The floating-point number that a word stands for. -/
def float? (word : List Char) : Option Binary64 :=
  let (negative, cs) := Number.signed word
  if cs = ['i', 'n', 'f'] then some (.infinite negative)
  else if cs = ['n', 'a', 'n'] then some .notANumber
  else decimalFloat? negative cs

/-- The number of two digits, if it lies between the bounds. -/
def twoDigits? (least greatest : Nat) (a b : Char) : Option Nat :=
  if a.isDigit && b.isDigit then
    let n := Number.ofDigits 10 [a, b]
    if least ≤ n ∧ n ≤ greatest then some n else none
  else none

/-- The number of days in a month of a year. -/
def daysIn (year month : Nat) : Nat :=
  if month = 2 then
    if (year % 4 = 0 ∧ year % 100 ≠ 0) ∨ year % 400 = 0 then 29 else 28
  else if month ∈ [4, 6, 9, 11] then 30 else 31

/-- What follows the date at the start of a word. -/
def afterDate? : List Char → Option (List Char)
  | y₁ :: y₂ :: y₃ :: y₄ :: '-' :: m₁ :: m₂ :: '-' :: d₁ :: d₂ :: rest => do
    let century ← twoDigits? 0 99 y₁ y₂
    let year ← twoDigits? 0 99 y₃ y₄
    let month ← twoDigits? 1 12 m₁ m₂
    let _ ← twoDigits? 1 (daysIn (century * 100 + year) month) d₁ d₂
    return rest
  | _ => none

/-- What follows the time of day at the start of a word. -/
def afterTime? : List Char → Option (List Char)
  | h₁ :: h₂ :: ':' :: m₁ :: m₂ :: ':' :: s₁ :: s₂ :: rest => do
    let _ ← twoDigits? 0 23 h₁ h₂
    let _ ← twoDigits? 0 59 m₁ m₂
    let _ ← twoDigits? 0 60 s₁ s₂
    match rest with
    | '.' :: ds =>
      if (ds.takeWhile Char.isDigit).isEmpty then none else some (ds.dropWhile Char.isDigit)
    | _ => return rest
  | _ => none

/-- Whether the characters are an offset from universal time, or nothing. -/
def isOffset : List Char → Bool
  | [] => true
  | [c] => c = 'Z' || c = 'z'
  | [sign, h₁, h₂, ':', m₁, m₂] =>
    (sign = '+' || sign = '-')
      && (twoDigits? 0 23 h₁ h₂).isSome && (twoDigits? 0 59 m₁ m₂).isSome
  | _ => false

/-- Whether the characters are a time of day and an offset. -/
def isTimeWithOffset (cs : List Char) : Bool :=
  match afterTime? cs with
  | some rest => isOffset rest
  | none => false

/-- Whether a word is a date alone. -/
def isDate (word : List Char) : Bool := afterDate? word = some []

/-- Whether a word is a moment: a date, a time of day, or both with a letter between. -/
def isMoment (word : List Char) : Bool :=
  match afterDate? word with
  | some [] => true
  | some (c :: rest) => (c = 'T' || c = 't') && isTimeWithOffset rest
  | none => afterTime? word = some []

/-- The scalar that a word stands for. -/
def ofWord? (word : List Char) : Option Scalar :=
  if word = ['t', 'r', 'u', 'e'] then some (.boolean true)
  else if word = ['f', 'a', 'l', 's', 'e'] then some (.boolean false)
  else if isMoment word then some (.moment (String.ofList word))
  else match float? word with
    | some x => some (.float x)
    | none => (integer? word).map .integer

/-- Reads a word from the front of a text.  A date may be parted from a time by a space. -/
def readWord (cs : List Char) : Option (Scalar × List Char) :=
  let word := cs.takeWhile isWordChar
  let rest := cs.dropWhile isWordChar
  match isDate word, rest with
  | true, ' ' :: c :: rest' =>
    if c.isDigit then
      let time := (c :: rest').takeWhile isWordChar
      if isTimeWithOffset time then
        some (.moment (String.ofList (word ++ ' ' :: time)), (c :: rest').dropWhile isWordChar)
      else none
    else some (.moment (String.ofList word), rest)
  | _, _ => (ofWord? word).map (·, rest)

end LaunchGuard.Toml
