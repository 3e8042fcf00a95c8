/-
# Numbers written in digits

The digits of a number are read back as the number.  The decimal ones have no needless leading zero,
so they are also what a reader takes that refuses one.
-/
import Mathlib.Tactic.Lemma
import LaunchGuard.Number

namespace LaunchGuard.Number

variable {ds : List Char}

lemma isDigitOf_of_isDigit {c : Char} (h : c.isDigit = true) : isDigitOf 10 c = true := by
  obtain ⟨h₀, h₉⟩ := Char.isDigit_iff_toNat.1 h
  have hlt : c.toNat - 48 < 10 := by
    change 48 ≤ c.toNat at h₀
    change c.toNat ≤ 57 at h₉
    omega
  simp only [isDigitOf, h, if_true, decide_eq_true_eq]
  exact hlt

/-- A digit is written by its value. -/
lemma digitValue_digitChar {d : Nat} (h : d < 16) : digitValue (Nat.digitChar d) = d := by
  revert d
  decide

/-- One more digit. -/
lemma ofDigits_concat (base : Nat) (ds : List Char) (c : Char) :
    ofDigits base (ds ++ [c]) = ofDigits base ds * base + digitValue c := by
  rw [ofDigits, List.foldl_append]
  rfl

/-- Every digit of a number is that of some value below the base. -/
lemma exists_digitChar_of_mem_toDigits {base n : Nat} {c : Char} (hbase : 1 < base)
    (h : c ∈ Nat.toDigits base n) : ∃ d < base, c = Nat.digitChar d := by
  induction n using Nat.strongRecOn with
  | ind n ih =>
    rw [Nat.toDigits_eq_if hbase] at h
    by_cases hn : n < base
    · rw [if_pos hn, List.mem_singleton] at h
      exact ⟨n, hn, h⟩
    · rw [if_neg hn, List.mem_append, List.mem_singleton] at h
      rcases h with h | h
      · exact ih (n / base) (Nat.div_lt_self (by omega) hbase) h
      · exact ⟨n % base, Nat.mod_lt n (by omega), h⟩

/-- The digits of a number. -/
lemma isDigit_of_mem_toDigits {n : Nat} {c : Char} (h : c ∈ Nat.toDigits 10 n) :
    c.isDigit = true :=
  Nat.isDigit_of_mem_toDigits (by decide) (by decide) h

/-- The digits of a number are read back as the number, in any base up to the hexadecimal one. -/
lemma ofDigits_toDigits {base : Nat} (hbase : 1 < base) (hle : base ≤ 16) (n : Nat) :
    ofDigits base (Nat.toDigits base n) = n := by
  induction n using Nat.strongRecOn with
  | ind n ih =>
    rw [Nat.toDigits_eq_if hbase]
    by_cases hn : n < base
    · rw [if_pos hn]
      -- a single digit
      have hvalue := digitValue_digitChar (Nat.lt_of_lt_of_le hn hle)
      rw [ofDigits, List.foldl_cons, List.foldl_nil, hvalue, Nat.zero_mul, Nat.zero_add]
    · have hlast : n % base < 16 := Nat.lt_of_lt_of_le (Nat.mod_lt n (by omega)) hle
      rw [if_neg hn, ofDigits_concat, ih (n / base) (Nat.div_lt_self (by omega) hbase),
        digitValue_digitChar hlast, Nat.div_add_mod']

/-- Only zero is written with a leading zero, and then with nothing after it. -/
lemma eq_nil_of_toDigits_eq_cons {n : Nat} (h : Nat.toDigits 10 n = '0' :: ds) : ds = [] := by
  induction n using Nat.strongRecOn generalizing ds with
  | ind n ih =>
    rw [Nat.toDigits_eq_if (by decide)] at h
    by_cases hn : n < 10
    · rw [if_pos hn] at h
      exact (List.cons.inj h).2.symm
    · rw [if_neg hn] at h
      have hfront : Nat.toDigits 10 (n / 10) ≠ [] := Nat.toDigits_ne_nil
      obtain ⟨c, cs, hcs⟩ := List.exists_cons_of_ne_nil hfront
      rw [hcs, List.cons_append, List.cons.injEq] at h
      obtain ⟨rfl, -⟩ := h
      -- the front digits would be a single zero, but they are those of a tenth of the number
      obtain rfl := ih (n / 10) (by omega) hcs
      have hvalue : ofDigits 10 (Nat.toDigits 10 (n / 10)) = n / 10 :=
        ofDigits_toDigits (by decide) (by decide) _
      rw [hcs] at hvalue
      change 0 = n / 10 at hvalue
      omega

/-- A run of digits without marks between them is its own digits. -/
lemma ungrouped_of_isDigit (hne : ds ≠ []) (h : ∀ c ∈ ds, c.isDigit = true) :
    ungrouped 10 ds = some ds := by
  induction ds with
  | nil => exact absurd rfl hne
  | cons c ds ih =>
    rw [ungrouped.eq_def]
    simp only [isDigitOf_of_isDigit (h c (.head ds)), if_true]
    split
    · rfl
    · next rest =>
      have hmark := h '_' (.tail c (.head rest))
      cases hmark
    · next hempty _ =>
      rw [ih hempty fun d hd => h d (.tail c hd)]
      rfl

/-- The digits of a number are a decimal whole number. -/
lemma decimal?_toDigits (n : Nat) : decimal? (Nat.toDigits 10 n) = some (Nat.toDigits 10 n) := by
  rw [decimal?, ungrouped_of_isDigit Nat.toDigits_ne_nil fun _ => isDigit_of_mem_toDigits]
  split
  · next d ds h =>
    have hds := eq_nil_of_toDigits_eq_cons (Option.some.inj h)
    cases hds
  · rfl

end LaunchGuard.Number
