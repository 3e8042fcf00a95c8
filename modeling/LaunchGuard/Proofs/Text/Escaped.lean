/-
# Reading escaped texts back

The escaped form of a text has one part for each character.  The beginning of a part tells its kind,
and the closing brace tells where a number ends.  So the characters can be read off one after the
other, whatever follows them, and texts with the same escaped form are the same.

No quote stands in an escaped form but behind a backslash that is its own.  Whoever goes through the
escaped form and passes over each backslash together with the character after it does not meet one.
-/
import Mathlib.Data.List.Forall2
import LaunchGuard.Proofs.Number.Digits
import LaunchGuard.Proofs.Text.Shown

namespace LaunchGuard.Text.Escaped

/-! ### The parts of an escaped form -/

/-- The quotes and the backslash, which never stand for themselves. -/
def IsMark (c : Char) : Prop := c = '\'' ∨ c = '"' ∨ c = '\\'

instance (c : Char) : Decidable (IsMark c) := inferInstanceAs (Decidable (_ ∨ _ ∨ _))

/-- The controls that have letters. -/
inductive Lettered : Char → Char → Prop
  | tab : Lettered '\t' 't'
  | carriageReturn : Lettered '\r' 'r'
  | lineFeed : Lettered '\n' 'n'

/-- What the escaped form has for a character. -/
inductive Part (c : Char) : List Char → Prop
  /-- A printable character stands for itself, unless it is a quote or a backslash. -/
  | plain : IsPrintable c → ¬IsMark c → Part c [c]
  | mark : IsMark c → Part c ['\\', c]
  | letter {l : Char} : Lettered c l → Part c ['\\', l]
  /-- Any other character is written by its hexadecimal number. -/
  | number : ¬IsPrintable c → (∀ l, ¬Lettered c l) →
      Part c (['\\', 'u', '{'] ++ Nat.toDigits 16 c.toNat ++ ['}'])

variable {c d : Char} {cs ds part rest front back : List Char}

lemma encode_cons (c : Char) (cs : List Char) : encode (c :: cs) = encodeChar c ++ encode cs := rfl

lemma part_encodeChar (c : Char) : Part c (encodeChar c) := by
  fun_cases encodeChar c with
  | case1 h =>
    subst h
    exact .letter .tab
  | case2 _ h =>
    subst h
    exact .letter .carriageReturn
  | case3 _ _ h =>
    subst h
    exact .letter .lineFeed
  | case4 _ _ _ hmark => exact .mark hmark
  | case5 _ _ _ hmark hshape => exact .plain hshape hmark
  | case6 htab hreturn hfeed _ hshape =>
    refine .number hshape ?_
    rintro l (_ | _ | _)
    · exact htab rfl
    · exact hreturn rfl
    · exact hfeed rfl

/-- The escaped form of a text consists of the parts of its characters. -/
lemma exists_parts (cs : List Char) :
    ∃ parts, List.Forall₂ Part cs parts ∧ encode cs = parts.flatten := by
  refine ⟨cs.map encodeChar, ?_, List.flatMap_def⟩
  rw [List.forall₂_map_right_iff, List.forall₂_same]
  exact fun c _ => part_encodeChar c

/-! ### Reading a part -/

/-- The character for which an escaped form has its first part, and what follows that part. -/
def readPart : List Char → Option (Char × List Char)
  | [] => none
  | '\\' :: 't' :: rest => some ('\t', rest)
  | '\\' :: 'r' :: rest => some ('\r', rest)
  | '\\' :: 'n' :: rest => some ('\n', rest)
  | '\\' :: 'u' :: '{' :: rest =>
    let digits := rest.takeWhile (· ≠ '}')
    some (Char.ofNat (Number.ofDigits 16 digits), rest.drop (digits.length + 1))
  | '\\' :: c :: rest => some (c, rest)
  | c :: rest => some (c, rest)

/-- Hexadecimal digits are neither quotes nor backslashes nor braces. -/
lemma ne_of_mem_hexDigits {n : Nat} (h : d ∈ Nat.toDigits 16 n) : ¬IsMark d ∧ d ≠ '}' := by
  obtain ⟨k, hk, rfl⟩ := Number.exists_digitChar_of_mem_toDigits (by decide) h
  have hdigits : ∀ k < 16, ¬IsMark (Nat.digitChar k) ∧ Nat.digitChar k ≠ '}' := by decide
  exact hdigits k hk

/-- The digits of a number end at the brace. -/
lemma takeWhile_hexDigits (n : Nat) (rest : List Char) :
    (Nat.toDigits 16 n ++ '}' :: rest).takeWhile (· ≠ '}') = Nat.toDigits 16 n := by
  rw [List.takeWhile_append_of_pos, List.takeWhile_cons_of_neg (by decide), List.append_nil]
  intro d hd
  simpa using (ne_of_mem_hexDigits hd).2

/-- A part is read whatever follows it. -/
lemma readPart_append (h : Part c part) (rest : List Char) :
    readPart (part ++ rest) = some (c, rest) := by
  cases h with
  | plain _ hmark =>
    have hc : c ≠ '\\' := fun hc => hmark (.inr (.inr hc))
    simp [readPart, hc]
  | mark hmark => rcases hmark with rfl | rfl | rfl <;> rfl
  | letter hletter => cases hletter <;> rfl
  | number =>
    have hvalue : Number.ofDigits 16 (Nat.toDigits 16 c.toNat) = c.toNat :=
      Number.ofDigits_toDigits (by decide) (by decide) _
    have hrest : (Nat.toDigits 16 c.toNat ++ '}' :: rest).drop
        ((Nat.toDigits 16 c.toNat).length + 1) = rest := by
      rw [List.drop_append, List.drop_eq_nil_of_le (by omega), Nat.add_sub_cancel_left]
      rfl
    simp only [List.append_assoc, List.cons_append, List.nil_append, readPart,
      takeWhile_hexDigits, hvalue, hrest, Char.ofNat_toNat]

/-- So the first character of a text is read off the escaped form, with the rest of the form. -/
lemma readPart_encode_cons (c : Char) (cs : List Char) :
    readPart (encode (c :: cs)) = some (c, encode cs) :=
  readPart_append (part_encodeChar c) (encode cs)

/-- Texts with the same escaped form are the same. -/
lemma encode_injective (h : encode cs = encode ds) : cs = ds := by
  induction cs generalizing ds with
  | nil =>
    cases ds with
    | nil => rfl
    | cons d ds =>
      have hread := readPart_encode_cons d ds
      rw [← h] at hread
      cases hread
  | cons c cs ih =>
    have hread := readPart_encode_cons c cs
    cases ds with
    | nil =>
      rw [h] at hread
      cases hread
    | cons d ds =>
      rw [h, readPart_encode_cons] at hread
      obtain ⟨rfl, hrest⟩ := Prod.mk.inj (Option.some.inj hread)
      rw [ih hrest.symm]

/-! ### Nothing stands bare -/

/-- Each backslash in the text begins an escape, with the character after it.  Going through the text
and passing over each backslash together with that character, one meets no quote. -/
inductive Guarded : List Char → Prop
  | done : Guarded []
  | plain {c : Char} {rest : List Char} : ¬IsMark c → Guarded rest → Guarded (c :: rest)
  | escape {c : Char} {rest : List Char} : IsMark c ∨ c ∈ ['t', 'r', 'n', 'u'] → Guarded rest →
      Guarded ('\\' :: c :: rest)

lemma Guarded.append (h : ∀ c ∈ cs, ¬IsMark c) (hrest : Guarded rest) : Guarded (cs ++ rest) := by
  induction cs with
  | nil => exact hrest
  | cons c cs ih =>
    obtain ⟨hc, hcs⟩ := List.forall_mem_cons.1 h
    exact .plain hc (ih hcs)

lemma Part.guarded (h : Part c part) (hrest : Guarded rest) : Guarded (part ++ rest) := by
  cases h with
  | plain _ hmark => exact .plain hmark hrest
  | mark hmark => exact .escape (.inl hmark) hrest
  | letter hletter => cases hletter <;> exact .escape (.inr (by decide)) hrest
  | number =>
    have hdigits : ∀ d ∈ Nat.toDigits 16 c.toNat, ¬IsMark d :=
      fun d hd => (ne_of_mem_hexDigits hd).1
    -- after the letter of the escape come a brace, the digits and a brace
    have hbraced : Guarded ('{' :: (Nat.toDigits 16 c.toNat ++ '}' :: rest)) :=
      .plain (by decide) (.append hdigits (.plain (by decide) hrest))
    simp only [List.append_assoc, List.cons_append, List.nil_append]
    exact .escape (.inr (by decide)) hbraced

/-- Whatever is escaped, no quote and no backslash stands bare. -/
lemma guarded_encode (cs : List Char) : Guarded (encode cs) := by
  induction cs with
  | nil => exact .done
  | cons c cs ih => exact (part_encodeChar c).guarded ih

/-! ### The length of an escaped form -/

/-- The hexadecimal number of a character of one byte has two digits at most, and that of any
character six. -/
lemma length_hexDigits_le (c : Char) :
    (Nat.toDigits 16 c.toNat).length ≤ 6 ∧
      (c.utf8Size = 1 → (Nat.toDigits 16 c.toNat).length ≤ 2) := by
  rw [Nat.length_toDigits_le_iff (by decide) (by decide),
    Nat.length_toDigits_le_iff (by decide) (by decide)]
  constructor
  · have hvalid : c.toNat < 0xd800 ∨ 0xdfff < c.toNat ∧ c.toNat < 0x110000 := c.valid
    omega
  · intro hsize
    have hascii : c.toNat ≤ 127 := UInt32.le_iff_toNat_le.1 (Char.utf8Size_eq_one_iff.1 hsize)
    omega

/-- A part has eight characters at most for each byte of its character. -/
lemma Part.length_le (h : Part c part) : part.length ≤ 8 * c.utf8Size := by
  have hsize := c.utf8Size_pos
  cases h with
  | plain =>
    rw [List.length_singleton]
    omega
  | mark =>
    rw [List.length_cons, List.length_singleton]
    omega
  | letter =>
    rw [List.length_cons, List.length_singleton]
    omega
  | number =>
    obtain ⟨hsix, htwo⟩ := length_hexDigits_le c
    simp only [List.length_append, List.length_cons, List.length_nil]
    omega

end LaunchGuard.Text.Escaped
