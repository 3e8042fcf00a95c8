/-
# What shown texts are made of

A text from outside is shown escaped, between quotes, or both.  The escaped form holds nothing but
the ASCII characters from the space to the tilde.  Quotes leave the letters of any script alone, but
they write controls by letters and numbers; so a quoted text is always one line, and it is printable
ASCII if what is quoted is.
-/
import LaunchGuard.Proofs.Number.Digits
import LaunchGuard.Text.Escaped

namespace LaunchGuard.Text

/-- Whether a character is one of ASCII with a printable shape, or the space. -/
def IsPrintable (c : Char) : Prop := ' ' ≤ c ∧ c ≤ '~'

instance (c : Char) : Decidable (IsPrintable c) := inferInstanceAs (Decidable (_ ∧ _))

-- a list is gone through by its members, not by all characters that there are
instance (cs : List Char) : Decidable (∀ c ∈ cs, IsPrintable c) := List.decidableBAll _ cs

/-- Whether a text has no line break. -/
def OneLine (s : String) : Prop := '\n' ∉ s.toList

instance (s : String) : Decidable (OneLine s) := inferInstanceAs (Decidable (¬_))

/-- Whether a text is made of printable characters of ASCII alone. -/
def Printable (s : String) : Prop := ∀ c ∈ s.toList, IsPrintable c

instance (s : String) : Decidable (Printable s) := inferInstanceAs (Decidable (∀ c ∈ s.toList, IsPrintable c))

section Append

variable {s t : String}

lemma OneLine.append (hs : OneLine s) (ht : OneLine t) : OneLine (s ++ t) := by
  rw [OneLine, String.toList_append, List.mem_append]
  rintro (h | h)
  · exact hs h
  · exact ht h

lemma Printable.append (hs : Printable s) (ht : Printable t) : Printable (s ++ t) := by
  intro c hc
  rw [String.toList_append, List.mem_append] at hc
  rcases hc with hc | hc
  · exact hs c hc
  · exact ht c hc

lemma Printable.oneLine (h : Printable s) : OneLine s := fun hmem => absurd (h '\n' hmem) (by decide)

/-- Printable characters are ASCII. -/
lemma IsPrintable.toNat_lt {c : Char} (h : IsPrintable c) : c.toNat < 128 := by
  have hle : c.toNat ≤ '~'.toNat := h.2
  have htilde : '~'.toNat = 126 := rfl
  omega

end Append

/-! ### Numbers -/

lemma isPrintable_digitChar {d : Nat} (h : d < 16) : IsPrintable (Nat.digitChar d) := by
  revert d
  decide

/-- The digits of a number are printable, in any base up to the hexadecimal one. -/
lemma isPrintable_of_mem_toDigits {b n : Nat} {c : Char} (hb : 1 < b) (hle : b ≤ 16)
    (h : c ∈ Nat.toDigits b n) : IsPrintable c := by
  obtain ⟨d, hd, rfl⟩ := Number.exists_digitChar_of_mem_toDigits hb h
  exact isPrintable_digitChar (Nat.lt_of_lt_of_le hd hle)

lemma printable_toString (n : Nat) : Printable (toString n) := by
  intro c hc
  have hdigits : (toString n).toList = Nat.toDigits 10 n := String.toList_ofList
  rw [hdigits] at hc
  exact isPrintable_of_mem_toDigits (by decide) (by decide) hc

lemma isPrintable_of_mem_numbered {c d : Char} (h : d ∈ numbered c) : IsPrintable d := by
  simp only [numbered, List.mem_append, List.mem_singleton] at h
  rcases h with (h | h) | rfl
  · revert d
    decide
  · exact isPrintable_of_mem_toDigits (by decide) (by decide) h
  · decide

/-! ### Escaped texts -/

lemma isPrintable_of_mem_escapedChar {c d : Char} (h : d ∈ Escaped.encodeChar c) :
    IsPrintable d := by
  revert h
  fun_cases Escaped.encodeChar c with
  | case1 => revert d; decide
  | case2 => revert d; decide
  | case3 => revert d; decide
  | case4 h₁ h₂ h₃ hmark =>
    -- a quote or a backslash after its own backslash
    rcases hmark with rfl | rfl | rfl <;> revert d <;> decide
  | case5 h₁ h₂ h₃ h₄ hshape =>
    intro h
    rw [List.mem_singleton.1 h]
    exact hshape
  | case6 => exact isPrintable_of_mem_numbered

/-- Whatever is escaped, the escaped form is printable ASCII. -/
lemma isPrintable_of_mem_escaped {cs : List Char} {d : Char} (h : d ∈ Escaped.encode cs) :
    IsPrintable d := by
  obtain ⟨c, -, hc⟩ := List.mem_flatMap.1 h
  exact isPrintable_of_mem_escapedChar hc

/-! ### Quoted texts -/

/-- Between quotes a character is left as it is, or written by printable characters of ASCII. -/
lemma eq_or_isPrintable_of_mem_quotedChar {c d : Char} (h : d ∈ Quoted.encodeChar c) :
    d = c ∧ c ≠ '\n' ∨ IsPrintable d := by
  revert h
  fun_cases Quoted.encodeChar c with
  | case1 => exact fun h => .inr (by revert d; decide)
  | case2 => exact fun h => .inr (by revert d; decide)
  | case3 => exact fun h => .inr (by revert d; decide)
  | case4 => exact fun h => .inr (by revert d; decide)
  | case5 h₁ h₂ h₃ h₄ hmark =>
    rcases hmark with rfl | rfl <;> exact fun h => .inr (by revert d; decide)
  | case6 => exact fun h => .inr (isPrintable_of_mem_numbered h)
  | case7 h₁ h₂ h₃ hbreak => exact fun h => .inl ⟨List.mem_singleton.1 h, hbreak⟩

/-- A character between the quotes stands for one of the text, or is printable ASCII. -/
lemma of_mem_quote {s : String} {d : Char} (h : d ∈ (quote s).toList) :
    d ∈ s.toList ∧ d ≠ '\n' ∨ IsPrintable d := by
  rw [quote, String.toList_ofList, Quoted.encode, List.mem_cons, List.mem_append,
    List.mem_singleton] at h
  rcases h with rfl | h | rfl
  · exact .inr (by decide)
  · obtain ⟨c, hc, hd⟩ := List.mem_flatMap.1 h
    rcases eq_or_isPrintable_of_mem_quotedChar hd with ⟨rfl, hbreak⟩ | hd
    · exact .inl ⟨hc, hbreak⟩
    · exact .inr hd
  · exact .inr (by decide)

/-- Whatever is quoted, the quoted text is one line. -/
lemma oneLine_quote (s : String) : OneLine (quote s) := by
  intro h
  rcases of_mem_quote h with ⟨-, hne⟩ | h
  · exact hne rfl
  · exact absurd h (by decide)

lemma oneLine_quote? (s : Option String) : OneLine (quote? s) := by
  cases s with
  | none => exact (by decide : OneLine "None")
  | some s => exact ((by decide : OneLine "Some(").append (oneLine_quote s)).append (by decide)

/-- Quotes keep printable ASCII what it is. -/
lemma Printable.quote {s : String} (h : Printable s) : Printable (quote s) := by
  intro d hd
  rcases of_mem_quote hd with ⟨hd, -⟩ | hd
  · exact h d hd
  · exact hd

end LaunchGuard.Text
