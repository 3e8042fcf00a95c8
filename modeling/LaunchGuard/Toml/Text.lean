/-
# Quoted texts

A text stands between double quotes, where backslashes introduce escapes, or between single quotes,
where nothing is special.  Three quotes instead of one open a text that may run over several lines;
a line break right after them does not count.  Control characters other than the tab are refused.
-/
import LaunchGuard.Number

namespace LaunchGuard.Toml

/-- Characters that may stand in a comment or between quotes: no controls but the tab. -/
def isPlainChar (c : Char) : Bool := c = '\t' || (' ' ≤ c && c ≠ '\x7f')

/-- The character with the given hexadecimal digits, if they name one. -/
def charOf? (digits : List Char) : Option Char :=
  if digits.all (Number.isDigitOf 16) then
    let n := Number.ofDigits 16 digits
    if n < 0xd800 ∨ (0xdfff < n ∧ n < 0x110000) then some (Char.ofNat n) else none
  else none

/-- The character that a single letter after a backslash stands for. -/
def shortEscape? : Char → Option Char
  | 'b' => some '\x08'
  | 'f' => some '\x0c'
  | 'n' => some '\n'
  | 'r' => some '\r'
  | 't' => some '\t'
  | '"' => some '"'
  | '\\' => some '\\'
  | _ => none

/-- Reads an escape after its backslash. -/
def readEscape : List Char → Option (Char × List Char)
  | 'u' :: a :: b :: c :: d :: rest => (charOf? [a, b, c, d]).map (·, rest)
  | 'U' :: a :: b :: c :: d :: e :: f :: g :: h :: rest =>
    (charOf? [a, b, c, d, e, f, g, h]).map (·, rest)
  | c :: rest => (shortEscape? c).map (·, rest)
  | [] => none

/-- What is left of a text after its leading blanks and line breaks. -/
def dropBlankLines : List Char → List Char
  | ' ' :: cs => dropBlankLines cs
  | '\t' :: cs => dropBlankLines cs
  | '\n' :: cs => dropBlankLines cs
  | '\r' :: '\n' :: cs => dropBlankLines cs
  | cs => cs

/-- What is left of a text after the line break at its front, if there is one. -/
def afterNewline? : List Char → Option (List Char)
  | '\n' :: cs => some cs
  | '\r' :: '\n' :: cs => some cs
  | _ => none

/-- Whether the character is a space or a tab. -/
def isSpace (c : Char) : Bool := c = ' ' || c = '\t'

/-- Adds a character to the front of what was read. -/
def push (c : Char) (r : Option (List Char × List Char)) : Option (List Char × List Char) :=
  r.map fun (cs, rest) => (c :: cs, rest)

/-- Reads the rest of a text between double quotes. -/
def readBasic : Nat → List Char → Option (List Char × List Char)
  | 0, _ => none
  | _, [] => none
  | fuel + 1, c :: cs =>
    if c = '"' then some ([], cs)
    else if c = '\\' then do
      let (e, rest) ← readEscape cs
      push e (readBasic fuel rest)
    else if isPlainChar c then push c (readBasic fuel cs)
    else none

/-- Reads the rest of a text between single quotes. -/
def readLiteral : List Char → Option (List Char × List Char)
  | [] => none
  | c :: cs =>
    if c = '\'' then some ([], cs)
    else if isPlainChar c then push c (readLiteral cs)
    else none

/-- Reads a closing run of three to five quotes: those beyond three belong to the text. -/
def closing? (q : Char) (cs : List Char) : Option (List Char × List Char) :=
  let run := (cs.takeWhile (· = q)).length
  if run < 3 then none
  else
    let extra := min (run - 3) 2
    some (List.replicate extra q, cs.drop (extra + 3))

/-- Reads the rest of a text between three double quotes. -/
def readBasicLines : Nat → List Char → Option (List Char × List Char)
  | 0, _ => none
  | _, [] => none
  | fuel + 1, c :: cs =>
    match closing? '"' (c :: cs) with
    | some r => some r
    | none =>
      match afterNewline? (c :: cs) with
      | some rest => push '\n' (readBasicLines fuel rest)
      | none =>
        if c = '\\' then
          match afterNewline? (cs.dropWhile isSpace) with
          | some rest => readBasicLines fuel (dropBlankLines rest)
          | none => do
            let (e, rest) ← readEscape cs
            push e (readBasicLines fuel rest)
        else if isPlainChar c then push c (readBasicLines fuel cs)
        else none

/-- Reads the rest of a text between three single quotes. -/
def readLiteralLines : Nat → List Char → Option (List Char × List Char)
  | 0, _ => none
  | _, [] => none
  | fuel + 1, c :: cs =>
    match closing? '\'' (c :: cs) with
    | some r => some r
    | none =>
      match afterNewline? (c :: cs) with
      | some rest => push '\n' (readLiteralLines fuel rest)
      | none => if isPlainChar c then push c (readLiteralLines fuel cs) else none

/-- Reads a text between quotes of one line. -/
def readLine? : List Char → Option (List Char × List Char)
  | '"' :: cs => readBasic cs.length.succ cs
  | '\'' :: cs => readLiteral cs
  | _ => none

/-- Reads a text between quotes of any kind. -/
def readText? : List Char → Option (List Char × List Char)
  | '"' :: '"' :: '"' :: cs =>
    readBasicLines cs.length.succ ((afterNewline? cs).getD cs)
  | '\'' :: '\'' :: '\'' :: cs =>
    readLiteralLines cs.length.succ ((afterNewline? cs).getD cs)
  | cs => readLine? cs

end LaunchGuard.Toml
