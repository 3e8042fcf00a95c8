/-
# Reading lines

A plain line holds a key without quotes, an equals sign and a word, or a key in brackets.  Each
reader takes its part of such a line and stops at the first character that cannot belong to it, so a
line is read as its statement whatever follows the line break.
-/
import Mathlib.Data.List.TakeWhile
import LaunchGuard.Toml.Grammar

namespace LaunchGuard.Toml

/-- A key that needs no quotes. -/
def IsBareKey (key : List Char) : Prop := key ≠ [] ∧ ∀ c ∈ key, isKeyChar c = true

instance (key : List Char) : Decidable (IsBareKey key) :=
  decidable_of_iff ((!key.isEmpty && key.all isKeyChar) = true) (by simp [IsBareKey])

/-- A word that some value is written as. -/
def IsBareWord (word : List Char) : Prop := word ≠ [] ∧ ∀ c ∈ word, isWordChar c = true

instance (word : List Char) : Decidable (IsBareWord word) :=
  decidable_of_iff ((!word.isEmpty && word.all isWordChar) = true) (by simp [IsBareWord])

variable {key word : List Char} {c : Char} {rest : List Char}

/-! ### Runs of characters -/

lemma ne_of_test {p : Char → Bool} {d : Char} (hc : p c = true) (hd : p d = false) : c ≠ d := by
  rintro rfl
  exact nomatch hc.symm.trans hd

lemma takeWhile_run {p : Char → Bool} {run : List Char} (h : ∀ d ∈ run, p d = true)
    (hc : p c = false) : (run ++ c :: rest).takeWhile p = run := by
  rw [List.takeWhile_append_of_pos h, List.takeWhile_cons_of_neg (by simp [hc]), List.append_nil]

lemma dropWhile_run {p : Char → Bool} {run : List Char} (h : ∀ d ∈ run, p d = true)
    (hc : p c = false) : (run ++ c :: rest).dropWhile p = c :: rest := by
  rw [List.dropWhile_append_of_pos h, List.dropWhile_cons_of_neg (by simp [hc])]

lemma skipSpaces_of_not_space (h : isSpace c = false) : skipSpaces (c :: rest) = c :: rest :=
  List.dropWhile_cons_of_neg (by simp [h])

/-- A run of characters that are no spaces is not skipped. -/
lemma skipSpaces_run {p : Char → Bool} {run : List Char} (hne : run ≠ [])
    (h : ∀ d ∈ run, p d = true) (hspace : p ' ' = false) (htab : p '\t' = false)
    (rest : List Char) : skipSpaces (run ++ rest) = run ++ rest := by
  obtain ⟨d, ds, rfl⟩ := List.exists_cons_of_ne_nil hne
  have hd := h d (.head ds)
  refine skipSpaces_of_not_space ?_
  simp [isSpace, ne_of_test hd hspace, ne_of_test hd htab]

lemma skipTrivia_of_ne (h : c ∉ [' ', '\t', '\n', '#', '\r']) :
    skipTrivia false (c :: rest) = c :: rest := by
  simp only [List.mem_cons, List.not_mem_nil, or_false, not_or] at h
  obtain ⟨h₁, h₂, h₃, h₄, h₅⟩ := h
  simp [skipTrivia, h₁, h₂, h₃, h₄, h₅]

/-! ### Keys -/

lemma readLine?_of_ne (h₁ : c ≠ '"') (h₂ : c ≠ '\'') : readLine? (c :: rest) = none := by
  rw [readLine?.eq_def]
  split
  · next heq => exact absurd (List.cons.inj heq).1 h₁
  · next heq => exact absurd (List.cons.inj heq).1 h₂
  · rfl

/-- A key without quotes ends at the first character that no key contains. -/
lemma readKey_bare (hkey : IsBareKey key) (hc : isKeyChar c = false) :
    readKey (key ++ c :: rest) =
      some (⟨String.ofList key, (key ++ c :: rest).length⟩, c :: rest) := by
  obtain ⟨hne, hchars⟩ := hkey
  have hquoted : readLine? (key ++ c :: rest) = none := by
    obtain ⟨k, ks, rfl⟩ := List.exists_cons_of_ne_nil hne
    have hk := hchars k (.head ks)
    exact readLine?_of_ne (ne_of_test hk (by decide)) (ne_of_test hk (by decide))
  rw [readKey, hquoted, takeWhile_run hchars hc, dropWhile_run hchars hc]
  exact if_neg hne

/-- A single key without quotes. -/
lemma readKeyPath_bare (parts : Nat) (rest : List Char) (hkey : IsBareKey key)
    (hc : isKeyChar c = false) {d : Char} {rest' : List Char}
    (hskip : skipSpaces (c :: rest) = d :: rest') (hd : d ≠ '.') :
    readKeyPath (parts + 1) (key ++ c :: rest) =
      some (⟨[], ⟨String.ofList key, (key ++ c :: rest).length⟩⟩, d :: rest') := by
  rw [readKeyPath, readKey_bare hkey hc]
  simp only [Option.bind_eq_bind, Option.bind_some, hskip]
  split
  · next heq => exact absurd (List.cons.inj heq).1 hd
  · rfl

/-! ### Values -/

lemma readScalar_of_ne (h₁ : c ≠ '"') (h₂ : c ≠ '\'') :
    readScalar (c :: rest) =
      (readWord (c :: rest)).map fun r => (.scalar (c :: rest).length r.1, r.2) := by
  rw [readScalar.eq_def]
  split
  · next heq => exact absurd (List.cons.inj heq).1 h₁
  · next heq => exact absurd (List.cons.inj heq).1 h₂
  · cases readWord (c :: rest) <;> rfl

lemma readValue_of_ne (depth : Nat) (h₁ : c ≠ '[') (h₂ : c ≠ '{') :
    readValue depth (c :: rest) = readScalar (c :: rest) := by
  rw [readValue.eq_def]
  split
  · rfl
  · split
    · next heq => exact absurd (List.cons.inj heq).1 h₁
    · next heq => exact absurd (List.cons.inj heq).1 h₂
    · rfl

lemma readWord_bare (rest : List Char) {x : Scalar} (hword : IsBareWord word)
    (hx : ofWord? word = some x) :
    readWord (word ++ '\n' :: rest) = some (x, '\n' :: rest) := by
  have hbreak : isWordChar '\n' = false := by decide
  simp only [readWord, takeWhile_run hword.2 hbreak, dropWhile_run hword.2 hbreak]
  -- a date could go on after a space, but the word is followed by a line break
  split
  · next heq => cases heq
  · rw [hx]
    rfl

/-- A value that is a word ends with its line. -/
lemma readValue_bare (depth : Nat) {x : Scalar} (hword : IsBareWord word)
    (hx : ofWord? word = some x) :
    readValue depth (word ++ '\n' :: rest) =
      some (.scalar (word ++ '\n' :: rest).length x, '\n' :: rest) := by
  have hread := readWord_bare rest hword hx
  obtain ⟨hne, hchars⟩ := hword
  obtain ⟨w, ws, rfl⟩ := List.exists_cons_of_ne_nil hne
  have hw := hchars w (.head ws)
  rw [List.cons_append] at hread ⊢
  rw [readValue_of_ne depth (ne_of_test hw (by decide)) (ne_of_test hw (by decide)),
    readScalar_of_ne (ne_of_test hw (by decide)) (ne_of_test hw (by decide)), hread]
  rfl

/-! ### Statements -/

/-- The text of a line that gives a key its value. -/
def assignmentLine (key word : List Char) : List Char :=
  key ++ ' ' :: '=' :: ' ' :: (word ++ ['\n'])

/-- The text of a line that opens a section, with the empty line before it. -/
def headerLine (key : List Char) : List Char := '\n' :: '[' :: (key ++ [']', '\n'])

lemma readStatement_of_ne (h : c ≠ '[') :
    readStatement (c :: rest) =
      (readAssignment (readValue depthLimit) (c :: rest)).map fun r => (.assign r.1, r.2) := by
  rw [readStatement.eq_def]
  split
  · next heq => exact absurd (List.cons.inj heq).1 h
  · next heq => exact absurd (List.cons.inj heq).1 h
  · cases readAssignment (readValue depthLimit) (c :: rest) <;> rfl

lemma readAssignment_bare (item : ValueReader) {cs : List Char} (hkey : IsBareKey key)
    (hcs : skipSpaces cs = cs) :
    readAssignment item (key ++ ' ' :: '=' :: ' ' :: cs) =
      (item cs).map fun r =>
        (⟨⟨[], ⟨String.ofList key, (key ++ ' ' :: '=' :: ' ' :: cs).length⟩⟩, r.1⟩, r.2) := by
  have hskip : skipSpaces (' ' :: cs) = cs := (List.dropWhile_cons_of_pos (by decide)).trans hcs
  have hpath := readKeyPath_bare 78 ('=' :: ' ' :: cs) hkey (c := ' ') (by decide)
    (d := '=') rfl (by decide)
  rw [readAssignment, depthLimit, hpath]
  simp only [Option.bind_eq_bind, Option.bind_some, hskip]
  cases item cs <;> rfl

lemma readStatement_assignmentLine (rest : List Char) {x : Scalar} (hkey : IsBareKey key)
    (hword : IsBareWord word) (hx : ofWord? word = some x) :
    ∃ m m', readStatement (assignmentLine key word ++ rest) =
      some (.assign ⟨⟨[], ⟨String.ofList key, m⟩⟩, .scalar m' x⟩, '\n' :: rest) := by
  have hspace : skipSpaces (word ++ '\n' :: rest) = word ++ '\n' :: rest :=
    skipSpaces_run hword.1 hword.2 (by decide) (by decide) _
  have hread := readAssignment_bare (readValue depthLimit) hkey hspace
  rw [readValue_bare depthLimit hword hx] at hread
  have htext : assignmentLine key word ++ rest =
      key ++ ' ' :: '=' :: ' ' :: (word ++ '\n' :: rest) := by
    simp [assignmentLine]
  obtain ⟨k, ks, rfl⟩ := List.exists_cons_of_ne_nil hkey.1
  have hk := hkey.2 k (.head ks)
  rw [htext, List.cons_append, readStatement_of_ne (ne_of_test hk (by decide)),
    ← List.cons_append, hread]
  exact ⟨_, _, rfl⟩

lemma readHeader_bare (mark : Nat) (rest : List Char) (hkey : IsBareKey key) :
    readHeader mark false (key ++ ']' :: rest) =
      some (.header mark false ⟨[], ⟨String.ofList key, (key ++ ']' :: rest).length⟩⟩, rest) := by
  have hpath := readKeyPath_bare 78 rest hkey (c := ']') (by decide)
    (d := ']') (skipSpaces_of_not_space (by decide)) (by decide)
  have hspace : skipSpaces (key ++ ']' :: rest) = key ++ ']' :: rest :=
    skipSpaces_run hkey.1 hkey.2 (by decide) (by decide) _
  rw [readHeader, hspace, depthLimit, hpath]
  rfl

/-- A key in brackets opens a section. -/
lemma readStatement_header (rest : List Char) (hkey : IsBareKey key) :
    ∃ m m', readStatement ('[' :: (key ++ ']' :: rest)) =
      some (.header m false ⟨[], ⟨String.ofList key, m'⟩⟩, rest) := by
  have hheader := readHeader_bare ('[' :: (key ++ ']' :: rest)).length rest hkey
  refine ⟨_, _, Eq.trans ?_ hheader⟩
  -- the key does not begin with a second bracket
  obtain ⟨k, ks, rfl⟩ := List.exists_cons_of_ne_nil hkey.1
  have hk := hkey.2 k (.head ks)
  rw [readStatement.eq_def]
  split
  · next heq =>
    have hbracket : k = '[' := (List.cons.inj (List.cons.inj heq).2).1
    exact absurd hbracket (ne_of_test hk (by decide))
  · next heq =>
    cases heq
    rfl
  · next hnot => exact absurd rfl (hnot _)

/-- A statement that ends with its line is read before those of the other lines. -/
lemma readStatements_of_line (fuel : Nat) {cs cs' : List Char} {st : Statement}
    (hskip : skipTrivia false cs = cs') (hne : cs' ≠ [])
    (hread : readStatement cs' = some (st, '\n' :: rest)) :
    readStatements (fuel + 1) cs = (readStatements fuel rest).map (st :: ·) := by
  have hbreak : afterLine? ('\n' :: rest) = some rest := rfl
  rw [readStatements]
  simp only [hskip, if_neg hne, hread, Option.bind_eq_bind, Option.bind_some, hbreak]
  rfl

lemma readStatements_assignmentLine (fuel : Nat) (rest : List Char) {x : Scalar}
    (hkey : IsBareKey key) (hword : IsBareWord word) (hx : ofWord? word = some x) :
    ∃ m m', readStatements (fuel + 1) (assignmentLine key word ++ rest) =
      (readStatements fuel rest).map
        (.assign ⟨⟨[], ⟨String.ofList key, m⟩⟩, .scalar m' x⟩ :: ·) := by
  obtain ⟨m, m', hread⟩ := readStatement_assignmentLine rest hkey hword hx
  obtain ⟨k, ks, rfl⟩ := List.exists_cons_of_ne_nil hkey.1
  have hk := hkey.2 k (.head ks)
  have hskip : skipTrivia false (assignmentLine (k :: ks) word ++ rest) =
      assignmentLine (k :: ks) word ++ rest := by
    refine skipTrivia_of_ne ?_
    simp [ne_of_test hk (d := ' ') (by decide), ne_of_test hk (d := '\t') (by decide),
      ne_of_test hk (d := '\n') (by decide), ne_of_test hk (d := '#') (by decide),
      ne_of_test hk (d := '\r') (by decide)]
  exact ⟨m, m', readStatements_of_line fuel hskip nofun hread⟩

lemma readStatements_headerLine (fuel : Nat) (rest : List Char) (hkey : IsBareKey key) :
    ∃ m m', readStatements (fuel + 1) (headerLine key ++ rest) =
      (readStatements fuel rest).map (.header m false ⟨[], ⟨String.ofList key, m'⟩⟩ :: ·) := by
  obtain ⟨m, m', hread⟩ := readStatement_header ('\n' :: rest) hkey
  have hskip : skipTrivia false (headerLine key ++ rest) = '[' :: (key ++ ']' :: '\n' :: rest) := by
    have htext : headerLine key ++ rest = '\n' :: '[' :: (key ++ ']' :: '\n' :: rest) := by
      simp [headerLine]
    rw [htext, skipTrivia]
    exact skipTrivia_of_ne (c := '[') (by decide)
  exact ⟨m, m', readStatements_of_line fuel hskip nofun hread⟩

end LaunchGuard.Toml
