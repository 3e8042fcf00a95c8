/-
# Texts without their ends

Dropping the longest tail in a class of characters leaves the one beginning of a text that does not
end in the class while all the rest is in it; at the front it is the same the other way round.  So
the trimmed form of a text, which is computed from one end and then the other, is the word in it
that neither begins nor ends with a blank and has only blanks around it.
-/
import Mathlib.Data.List.DropRight
import LaunchGuard.Text.Classes

namespace LaunchGuard.Text

/-! ### Dropping one end -/

section Dropping

variable {p : Char → Bool} {cs front tail : List Char}

/-- Nothing is dropped from a text that does not end in the class. -/
lemma rdropWhile_eq_self_iff : cs.rdropWhile p = cs ↔ ∀ c, cs.getLast? = some c → p c = false := by
  rw [List.rdropWhile_eq_self_iff]
  constructor
  · intro h c hc
    have hne : cs ≠ [] := by
      rintro rfl
      cases hc
    have hlast := h hne
    rw [List.getLast_eq_iff_getLast?_eq_some hne |>.2 hc] at hlast
    simpa using hlast
  · intro h hne
    simpa using h _ (List.getLast?_eq_some_getLast hne)

/-- A tail in the class is dropped together with the end of the text in front of it. -/
lemma rdropWhile_append (htail : ∀ c ∈ tail, p c = true) :
    (front ++ tail).rdropWhile p = front.rdropWhile p := by
  rw [List.rdropWhile, List.reverse_append, List.dropWhile_append_of_pos, List.rdropWhile]
  exact fun c hc => htail c (List.mem_reverse.1 hc)

/-- What is left of a text is its front, if the rest is in the class and the front does not end in
it. -/
lemma eq_rdropWhile_iff : front = cs.rdropWhile p ↔
    ∃ tail, cs = front ++ tail ∧ (∀ c ∈ tail, p c = true) ∧
      ∀ c, front.getLast? = some c → p c = false := by
  constructor
  · rintro rfl
    exact ⟨cs.rtakeWhile p, List.rdropWhile_append_rtakeWhile.symm,
      fun c hc => List.mem_rtakeWhile_imp hc,
      rdropWhile_eq_self_iff.1 (List.rdropWhile_idempotent p cs)⟩
  · rintro ⟨tail, rfl, htail, hlast⟩
    rw [rdropWhile_append htail, rdropWhile_eq_self_iff.2 hlast]

/-- Nothing is dropped from a text that does not begin with the class. -/
lemma dropWhile_of_head? (h : ∀ c, cs.head? = some c → p c = false) : cs.dropWhile p = cs := by
  cases cs with
  | nil => rfl
  | cons c cs => simp [h c rfl]

/-- What is left of a text is its tail, if the rest is in the class and the tail does not begin with
it. -/
lemma eq_dropWhile_iff : tail = cs.dropWhile p ↔
    ∃ front, cs = front ++ tail ∧ (∀ c ∈ front, p c = true) ∧
      ∀ c, tail.head? = some c → p c = false := by
  constructor
  · rintro rfl
    refine ⟨cs.takeWhile p, List.takeWhile_append_dropWhile.symm,
      fun c hc => List.mem_takeWhile_imp hc, fun c hc => ?_⟩
    have hhead := List.head?_dropWhile_not p cs
    simpa [hc] using hhead
  · rintro ⟨front, rfl, hfront, hhead⟩
    rw [List.dropWhile_append_of_pos hfront, dropWhile_of_head? hhead]

end Dropping

/-! ### Trimming both ends -/

/-- The word is what the text has between the blanks at its ends. -/
def Trimmed (cs word : List Char) : Prop :=
  ∃ front tail, cs = front ++ word ++ tail ∧
    (∀ c ∈ front, isBlank c = true) ∧ (∀ c ∈ tail, isBlank c = true) ∧
    (∀ c, word.head? = some c → isBlank c = false) ∧
    ∀ c, word.getLast? = some c → isBlank c = false

/-- Trimming finds that word in any text. -/
lemma trimmed_iff {cs word : List Char} : Trimmed cs word ↔ word = trim cs := by
  show _ ↔ word = (cs.dropWhile isBlank).rdropWhile isBlank
  rw [eq_rdropWhile_iff]
  constructor
  · rintro ⟨front, tail, rfl, hfront, htail, hhead, hlast⟩
    rw [List.append_assoc, List.dropWhile_append_of_pos hfront]
    cases word with
    | nil => exact ⟨[], by simpa using htail, by simp, hlast⟩
    | cons c word => exact ⟨tail, by simp [hhead c rfl], htail, hlast⟩
  · rintro ⟨tail, hdrop, htail, hlast⟩
    obtain ⟨front, hcs, hfront, hhead⟩ := eq_dropWhile_iff.1 hdrop.symm
    refine ⟨front, tail, by rw [hcs, List.append_assoc], hfront, htail, ?_, hlast⟩
    -- a word that is not empty begins where the blanks at the front end
    intro c hc
    exact hhead c (by simp [List.head?_append, hc])

/-- Nothing is left of a text exactly if all of it is blank. -/
lemma trim_eq_nil_iff {cs : List Char} : trim cs = [] ↔ ∀ c ∈ cs, isBlank c = true := by
  rw [eq_comm, ← trimmed_iff]
  constructor
  · rintro ⟨front, tail, rfl, hfront, htail, -, -⟩
    simpa [or_imp, forall_and] using ⟨hfront, htail⟩
  · intro hblank
    exact ⟨cs, [], by simp, hblank, by simp, by simp, by simp⟩

end LaunchGuard.Text
