/-
# Numbers and switches as words

A whole number that is written in digits is no date, no time of day and no floating-point number, so
the word of its digits stands for the number itself, as long as it fits into 64 bits with a sign.
-/
import Mathlib.Data.List.TakeWhile
import LaunchGuard.Proofs.Number.Digits
import LaunchGuard.Toml.Plain

namespace LaunchGuard.Toml

open Number

variable {ds : List Char}

/-! ### What a run of digits is not -/

lemma afterDate?_of_isDigit (h : ∀ c ∈ ds, c.isDigit = true) : afterDate? ds = none := by
  rw [afterDate?.eq_def]
  split
  · cases h '-' (by simp)
  · rfl

lemma afterTime?_of_isDigit (h : ∀ c ∈ ds, c.isDigit = true) : afterTime? ds = none := by
  rw [afterTime?.eq_def]
  split
  · cases h ':' (by simp)
  · rfl

lemma isMoment_of_isDigit (h : ∀ c ∈ ds, c.isDigit = true) : isMoment ds = false := by
  rw [isMoment, afterDate?_of_isDigit h, afterTime?_of_isDigit h]
  rfl

lemma signed_of_isDigit (h : ∀ c ∈ ds, c.isDigit = true) : signed ds = (false, ds) := by
  rw [signed.eq_def]
  split
  · cases h '-' (by simp)
  · cases h '+' (by simp)
  · rfl

/-- No character of the run ends its whole part. -/
lemma takeWhile_of_isDigit {p : Char → Bool} (h : ∀ c ∈ ds, c.isDigit = true)
    (hp : ∀ c, c.isDigit = true → p c = true) :
    ds.takeWhile p = ds ∧ ds.dropWhile p = [] := by
  have hall : ∀ c ∈ ds, p c = true := fun c hc => hp c (h c hc)
  exact ⟨List.takeWhile_eq_self_iff.2 hall, List.dropWhile_eq_nil_iff.2 hall⟩

/-- Without a fraction and an exponent there is no floating-point number. -/
lemma decimalFloat?_of_isDigit (negative : Bool) (h : ∀ c ∈ ds, c.isDigit = true) :
    decimalFloat? negative ds = none := by
  have hexp : ∀ c : Char, c.isDigit = true → (!isExponentLetter c) = true := by
    intro c hc
    simp only [isExponentLetter, Bool.not_eq_true', Bool.or_eq_false_iff, decide_eq_false_iff_not]
    constructor
    · rintro rfl
      cases hc
    · rintro rfl
      cases hc
  have hpoint : ∀ c : Char, c.isDigit = true → decide (c ≠ '.') = true := by
    intro c hc
    rw [decide_eq_true_eq]
    rintro rfl
    cases hc
  obtain ⟨htake, hdrop⟩ := takeWhile_of_isDigit h hexp
  obtain ⟨htake', hdrop'⟩ := takeWhile_of_isDigit h hpoint
  rw [decimalFloat?]
  simp only [htake, hdrop, htake', hdrop']
  cases decimal? ds <;> rfl

lemma float?_of_isDigit (h : ∀ c ∈ ds, c.isDigit = true) : float? ds = none := by
  have hinf : ds ≠ ['i', 'n', 'f'] := by
    rintro rfl
    cases h 'i' (by simp)
  have hnan : ds ≠ ['n', 'a', 'n'] := by
    rintro rfl
    cases h 'n' (by simp)
  simp only [float?, signed_of_isDigit h]
  rw [if_neg hinf, if_neg hnan, decimalFloat?_of_isDigit false h]

/-! ### What it is -/

lemma whole?_toDigits (n : Nat) : whole? (Nat.toDigits 10 n) = some (n : Int) := by
  have h : ∀ c ∈ Nat.toDigits 10 n, c.isDigit = true := fun _ => isDigit_of_mem_toDigits
  rw [whole?.eq_def]
  split
  · next cs hcs => cases h 'x' (by simp [hcs])
  · next cs hcs => cases h 'o' (by simp [hcs])
  · next cs hcs => cases h 'b' (by simp [hcs])
  · simp only [signed_of_isDigit h, decimal?_toDigits, Option.map_some]
    rw [ofDigits_toDigits (by decide) (by decide)]
    rfl

/-- The digits of a number that is not too large stand for the number. -/
lemma ofWord?_toDigits {n : Nat} (hn : n < 0x8000000000000000) :
    ofWord? (Nat.toDigits 10 n) = some (.integer n) := by
  have h : ∀ c ∈ Nat.toDigits 10 n, c.isDigit = true := fun _ => isDigit_of_mem_toDigits
  have htrue : Nat.toDigits 10 n ≠ ['t', 'r', 'u', 'e'] := by
    intro he
    cases h 't' (by simp [he])
  have hfalse : Nat.toDigits 10 n ≠ ['f', 'a', 'l', 's', 'e'] := by
    intro he
    cases h 'f' (by simp [he])
  have hrange : inRange (n : Int) = true := by
    simp only [inRange, Bool.and_eq_true, decide_eq_true_eq]
    omega
  rw [ofWord?, if_neg htrue, if_neg hfalse, isMoment_of_isDigit h, float?_of_isDigit h]
  simp only [integer?, whole?_toDigits, hrange]
  rfl

/-- Every integer that a word stands for fits into 64 bits with a sign. -/
lemma inRange_of_ofWord? {word : List Char} {n : Int} (h : ofWord? word = some (.integer n)) :
    inRange n = true := by
  have hinteger : integer? word = some n := by
    rw [ofWord?] at h
    split at h
    · cases h
    split at h
    · cases h
    split at h
    · cases h
    split at h
    · cases h
    · obtain ⟨m, hm, hmn⟩ := Option.map_eq_some_iff.1 h
      cases hmn
      exact hm
  rw [integer?] at hinteger
  split at hinteger
  · split at hinteger
    · next hrange =>
      cases hinteger
      exact hrange
    · cases hinteger
  · cases hinteger

end LaunchGuard.Toml
