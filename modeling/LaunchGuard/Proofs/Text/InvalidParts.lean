/-
# Invalid parts of bytes

What it means to read any bytes as a text can be told without the machine that does it.  The bytes
fall into parts, one after the other.  A part is the bytes of a character, which is read, or it is
invalid, and the mark `U+FFFD` is read for it.  An invalid part is as long as it can be: either a
byte that begins no character, or the beginning of a character which the next byte does not continue.

The machine reads the bytes in exactly this way, and there is no other.  For the proof, what the
machine knows in the middle of a character is turned into the bytes that have led there: the
characters that begin with these bytes are those that end in as many bytes as are missing, the first
of them in the range.

A character begins with a byte that continues none.  So whatever bytes come before a text, even if
they stop in the middle of a character, the text is read after them as it is.
-/
import Mathlib.Data.List.Basic
import Mathlib.Data.List.Induction
import LaunchGuard.Proofs.Text.Utf8

namespace LaunchGuard.Text.Utf8

open Progress

/-! ### How the bytes are to be read -/

/-- Some character is written with these bytes first. -/
def Begins (part : List UInt8) : Prop := ∃ c : Char, part <+: String.utf8EncodeChar c

/-- An invalid part, with the bytes that follow it. -/
inductive InvalidPart : List UInt8 → List UInt8 → Prop
  /-- A byte that begins no character. -/
  | stray {b : UInt8} {rest : List UInt8} : ¬Begins [b] → InvalidPart [b] rest
  /-- A character that is cut off: it is begun, and the next byte, if there is one, does not continue
  it. -/
  | cutOff {part rest : List UInt8} {c : Char} : part ≠ [] → part <+: String.utf8EncodeChar c →
      part ≠ String.utf8EncodeChar c → (∀ b, rest.head? = some b → ¬Begins (part ++ [b])) →
      InvalidPart part rest

lemma InvalidPart.ne_nil {part rest : List UInt8} (h : InvalidPart part rest) : part ≠ [] := by
  cases h with
  | stray => exact List.cons_ne_nil _ _
  | cutOff hne => exact hne

/-- The bytes are read as the text, with a mark for each invalid part. -/
inductive ReadsAs : List UInt8 → List Char → Prop
  | done : ReadsAs [] []
  | char (c : Char) {bs : List UInt8} {cs : List Char} : ReadsAs bs cs →
      ReadsAs (String.utf8EncodeChar c ++ bs) (c :: cs)
  | mark {part bs : List UInt8} {cs : List Char} : InvalidPart part bs → ReadsAs bs cs →
      ReadsAs (part ++ bs) ('\uFFFD' :: cs)

/-- A text is read as it was written. -/
lemma readsAs_encode (cs : List Char) : ReadsAs (encode cs) cs := by
  induction cs with
  | nil => exact .done
  | cons c cs ih => exact .char c ih

/-- Only its first byte begins a character. -/
lemma not_begins_append {part : List UInt8} {b : UInt8} (hpart : part ≠ [])
    (hb : b < 0x80 ∨ 0xc0 ≤ b) : ¬Begins (part ++ [b]) := by
  rintro ⟨c, hc⟩
  obtain ⟨first, rest, henc, -, hrest⟩ := encodeChar_eq_cons c
  obtain ⟨a, part', rfl⟩ := List.exists_cons_of_ne_nil hpart
  rw [henc, List.cons_append, List.cons_prefix_cons] at hc
  obtain ⟨hle, hlt⟩ := hrest b (hc.2.subset (List.mem_append_right _ (.head [])))
  rw [UInt8.le_iff_toNat_le] at hle
  rw [UInt8.lt_iff_toNat_lt] at hlt
  rw [UInt8.lt_iff_toNat_lt, UInt8.le_iff_toNat_le] at hb
  omega

/-- A text is read after any bytes as it is, even if they end in the middle of a character. -/
lemma ReadsAs.append_encode {bs : List UInt8} {cs : List Char} (h : ReadsAs bs cs)
    (ds : List Char) : ReadsAs (bs ++ encode ds) (cs ++ ds) := by
  induction h with
  | done => exact readsAs_encode ds
  | char c _ ih =>
    rw [List.append_assoc]
    exact .char c ih
  | @mark part bs cs hpart _ ih =>
    rw [List.append_assoc]
    refine .mark ?_ ih
    cases hpart with
    | stray hb => exact .stray hb
    | cutOff hne hc hc' hnext =>
      refine .cutOff hne hc hc' fun b hb => ?_
      cases bs with
      | cons b' bs => exact hnext b hb
      | nil =>
        -- the next byte is the first of a character now
        cases ds with
        | nil => cases hb
        | cons d ds =>
          obtain ⟨first, rest, henc, hfirst, -⟩ := encodeChar_eq_cons d
          rw [encode_cons, henc] at hb
          cases hb
          exact not_begins_append hne hfirst

/-! ### What the first byte tells -/

/-- A continuation byte. -/
def IsContinuation (b : UInt8) : Prop := 0x80 ≤ b.toNat ∧ b.toNat ≤ 0xbf

/-- The bytes end the character that is under way: they are as many as are missing, and the first of
them is in the range. -/
inductive Completes : Progress → List UInt8 → Prop
  | intro {missing least greatest gathered : Nat} {b : UInt8} {bs : List UInt8} :
      least ≤ b.toNat → b.toNat ≤ greatest → bs.length + 1 = missing →
      (∀ d ∈ bs, IsContinuation d) → Completes (awaiting missing least greatest gathered) (b :: bs)

/-- The bytes of a character from the first one on. -/
inductive Encoding (b : UInt8) : List UInt8 → Prop
  | single : b.toNat < 0x80 → Encoding b []
  | several {p : Progress} {bs : List UInt8} : begin b = ([], p) → Completes p bs → Encoding b bs

lemma begin_single {b : UInt8} (h : b.toNat < 0x80) :
    begin b = ([some (Char.ofNat b.toNat)], ready) := by
  have hb := begin_one h
  rwa [UInt8.ofNat_toNat] at hb

lemma begin_invalid {b : UInt8} (h : 0x80 ≤ b.toNat ∧ b.toNat < 0xc2 ∨ 0xf4 < b.toNat) :
    begin b = ([none], ready) := by
  simp only [begin]
  rcases h with ⟨hle, hlt⟩ | hlt
  · rw [if_neg (by omega), if_pos hlt]
  · rw [if_neg (by omega), if_neg (by omega), if_neg (by omega), if_neg (by omega),
      if_neg (by omega), if_neg (by omega), if_neg (by omega), if_neg (by omega),
      if_neg (by omega)]

/-- The byte begins a character of two, three or four bytes, and this is known after it. -/
inductive Leads (b : UInt8) : Progress → Prop
  | two : 0xc2 ≤ b.toNat → b.toNat < 0xe0 → Leads b (awaiting 1 0x80 0xbf (b.toNat - 0xc0))
  | three : 0xe0 ≤ b.toNat → b.toNat < 0xf0 →
      Leads b (awaiting 2 (if b.toNat = 0xe0 then 0xa0 else 0x80)
        (if b.toNat = 0xed then 0x9f else 0xbf) (b.toNat - 0xe0))
  | four : 0xf0 ≤ b.toNat → b.toNat ≤ 0xf4 →
      Leads b (awaiting 3 (if b.toNat = 0xf0 then 0x90 else 0x80)
        (if b.toNat = 0xf4 then 0x8f else 0xbf) (b.toNat - 0xf0))

lemma begin_of_leads {b : UInt8} {p : Progress} (h : Leads b p) : begin b = ([], p) := by
  have hb : begin (UInt8.ofNat b.toNat) = begin b := by rw [UInt8.ofNat_toNat]
  cases h with
  | two h₁ h₂ => exact hb.symm.trans (begin_two h₁ h₂)
  | three h₁ h₂ => exact hb.symm.trans (begin_three h₁ h₂)
  | four h₁ h₂ => exact hb.symm.trans (begin_four h₁ h₂)

/-- A byte is a character, or an invalid part, or it begins a character of several bytes. -/
lemma begin_cases (b : UInt8) :
    b.toNat < 0x80 ∨ begin b = ([none], ready) ∨ ∃ p, Leads b p := by
  rcases Nat.lt_or_ge b.toNat 0x80 with h₁ | h₁
  · exact .inl h₁
  rcases Nat.lt_or_ge b.toNat 0xc2 with h₂ | h₂
  · exact .inr (.inl (begin_invalid (.inl ⟨h₁, h₂⟩)))
  rcases Nat.lt_or_ge b.toNat 0xe0 with h₃ | h₃
  · exact .inr (.inr ⟨_, .two h₂ h₃⟩)
  rcases Nat.lt_or_ge b.toNat 0xf0 with h₄ | h₄
  · exact .inr (.inr ⟨_, .three h₃ h₄⟩)
  rcases Nat.lt_or_ge 0xf4 b.toNat with h₅ | h₅
  · exact .inr (.inl (begin_invalid (.inr h₅)))
  · exact .inr (.inr ⟨_, .four h₄ h₅⟩)

lemma leads_of_begin {b : UInt8} {p : Progress} (h : begin b = ([], p)) : Leads b p := by
  obtain hb | hnone | ⟨q, hq⟩ := begin_cases b
  · cases h.symm.trans (begin_single hb)
  · cases h.symm.trans hnone
  · cases h.symm.trans (begin_of_leads hq)
    exact hq

lemma isContinuation_ofNat (n : Nat) : IsContinuation (UInt8.ofNat (n % 0x40 + 0x80)) := by
  rw [IsContinuation, toNat_ofNat_of_lt (by omega)]
  omega

lemma encoding_encodeChar (c : Char) :
    ∃ b bs, String.utf8EncodeChar c = b :: bs ∧ Encoding b bs := by
  have hvalid : c.val.toNat < 0xd800 ∨ 0xdfff < c.val.toNat ∧ c.val.toNat < 0x110000 := c.valid
  simp only [String.utf8EncodeChar]
  split
  · refine ⟨_, _, rfl, .single ?_⟩
    rw [toNat_ofNat_of_lt (by omega)]
    omega
  split
  · refine ⟨_, _, rfl, .several (begin_two (by omega) (by omega)) ⟨?_, ?_, rfl, nofun⟩⟩
    · exact (isContinuation_ofNat _).1
    · exact (isContinuation_ofNat _).2
  split
  · refine ⟨_, _, rfl, .several (begin_three (by omega) (by omega)) ⟨?_, ?_, rfl, ?_⟩⟩
    · rw [toNat_ofNat_of_lt (by omega)]
      split <;> omega
    · rw [toNat_ofNat_of_lt (by omega)]
      split <;> omega
    · exact List.forall_mem_singleton.2 (isContinuation_ofNat _)
  · refine ⟨_, _, rfl, .several (begin_four (by omega) (by omega)) ⟨?_, ?_, rfl, ?_⟩⟩
    · rw [toNat_ofNat_of_lt (by omega)]
      split <;> omega
    · rw [toNat_ofNat_of_lt (by omega)]
      split <;> omega
    · refine List.forall_mem_cons.2 ⟨isContinuation_ofNat _, ?_⟩
      exact List.forall_mem_singleton.2 (isContinuation_ofNat _)

lemma toNat_ofNat {n : Nat} (h : n < 0xd800 ∨ 0xdfff < n ∧ n < 0x110000) :
    (Char.ofNat n).val.toNat = n := by
  have hvalid : n.isValidChar := h
  rw [Char.ofNat, dif_pos hvalid]
  rfl

section Several

variable {b d e f : UInt8}

lemma exists_char_two (h₁ : 0xc2 ≤ b.toNat) (h₂ : b.toNat < 0xe0) (hd : IsContinuation d) :
    ∃ c, String.utf8EncodeChar c = [b, d] := by
  obtain ⟨hd₁, hd₂⟩ := hd
  generalize hvalue : (b.toNat - 0xc0) * 64 + (d.toNat - 0x80) = n
  have hb : n / 64 % 0x20 + 0xc0 = b.toNat := by omega
  have hd : n % 0x40 + 0x80 = d.toNat := by omega
  refine ⟨Char.ofNat n, ?_⟩
  simp only [String.utf8EncodeChar, toNat_ofNat (n := n) (by omega)]
  rw [if_neg (by omega), if_pos (by omega), hb, hd, UInt8.ofNat_toNat, UInt8.ofNat_toNat]

/-- The range of the second byte leaves out overlong forms and surrogates. -/
lemma exists_char_three (h₁ : 0xe0 ≤ b.toNat) (h₂ : b.toNat < 0xf0)
    (hd : (if b.toNat = 0xe0 then 0xa0 else 0x80) ≤ d.toNat)
    (hd' : d.toNat ≤ if b.toNat = 0xed then 0x9f else 0xbf) (he : IsContinuation e) :
    ∃ c, String.utf8EncodeChar c = [b, d, e] := by
  obtain ⟨he₁, he₂⟩ := he
  have hrange : 0x80 ≤ d.toNat ∧ d.toNat ≤ 0xbf ∧ (b.toNat = 0xe0 → 0xa0 ≤ d.toNat) ∧
      (b.toNat = 0xed → d.toNat ≤ 0x9f) := by
    split at hd <;> split at hd' <;> omega
  generalize hvalue :
    ((b.toNat - 0xe0) * 64 + (d.toNat - 0x80)) * 64 + (e.toNat - 0x80) = n
  have hb : n / 4096 % 0x10 + 0xe0 = b.toNat := by omega
  have hd : n / 64 % 0x40 + 0x80 = d.toNat := by omega
  have he : n % 0x40 + 0x80 = e.toNat := by omega
  refine ⟨Char.ofNat n, ?_⟩
  simp only [String.utf8EncodeChar, toNat_ofNat (n := n) (by omega)]
  rw [if_neg (by omega), if_neg (by omega), if_pos (by omega), hb, hd, he, UInt8.ofNat_toNat,
    UInt8.ofNat_toNat, UInt8.ofNat_toNat]

/-- Here it leaves out overlong forms and values beyond the last character. -/
lemma exists_char_four (h₁ : 0xf0 ≤ b.toNat) (h₂ : b.toNat ≤ 0xf4)
    (hd : (if b.toNat = 0xf0 then 0x90 else 0x80) ≤ d.toNat)
    (hd' : d.toNat ≤ if b.toNat = 0xf4 then 0x8f else 0xbf) (he : IsContinuation e)
    (hf : IsContinuation f) : ∃ c, String.utf8EncodeChar c = [b, d, e, f] := by
  obtain ⟨he₁, he₂⟩ := he
  obtain ⟨hf₁, hf₂⟩ := hf
  have hrange : 0x80 ≤ d.toNat ∧ d.toNat ≤ 0xbf ∧ (b.toNat = 0xf0 → 0x90 ≤ d.toNat) ∧
      (b.toNat = 0xf4 → d.toNat ≤ 0x8f) := by
    split at hd <;> split at hd' <;> omega
  generalize hvalue : (((b.toNat - 0xf0) * 64 + (d.toNat - 0x80)) * 64 + (e.toNat - 0x80)) * 64 +
    (f.toNat - 0x80) = n
  have hb : n / 262144 % 0x08 + 0xf0 = b.toNat := by omega
  have hd : n / 4096 % 0x40 + 0x80 = d.toNat := by omega
  have he : n / 64 % 0x40 + 0x80 = e.toNat := by omega
  have hf : n % 0x40 + 0x80 = f.toNat := by omega
  refine ⟨Char.ofNat n, ?_⟩
  simp only [String.utf8EncodeChar, toNat_ofNat (n := n) (by omega)]
  rw [if_neg (by omega), if_neg (by omega), if_neg (by omega), hb, hd, he, hf,
    UInt8.ofNat_toNat, UInt8.ofNat_toNat, UInt8.ofNat_toNat, UInt8.ofNat_toNat]

end Several

/-- Bytes that the machine takes for a character are the bytes of one. -/
lemma Encoding.exists_char {b : UInt8} {bs : List UInt8} (h : Encoding b bs) :
    ∃ c, String.utf8EncodeChar c = b :: bs := by
  cases h with
  | single hb =>
    refine ⟨Char.ofNat b.toNat, ?_⟩
    simp only [String.utf8EncodeChar, toNat_ofNat (n := b.toNat) (by omega)]
    rw [if_pos (by omega), UInt8.ofNat_toNat]
  | several hbegin hrest =>
    cases leads_of_begin hbegin with
    | two h₁ h₂ =>
      obtain @⟨_, _, _, _, d, bs, hd, hd', hlen, -⟩ := hrest
      obtain rfl : bs = [] := List.length_eq_zero_iff.1 (by omega)
      exact exists_char_two h₁ h₂ ⟨hd, hd'⟩
    | three h₁ h₂ =>
      obtain @⟨_, _, _, _, d, bs, hd, hd', hlen, hbs⟩ := hrest
      obtain ⟨e, rfl⟩ := List.length_eq_one_iff.1 (show bs.length = 1 by omega)
      exact exists_char_three h₁ h₂ hd hd' (hbs e (.head []))
    | four h₁ h₂ =>
      obtain @⟨_, _, _, _, d, bs, hd, hd', hlen, hbs⟩ := hrest
      obtain ⟨e, f, rfl⟩ := List.length_eq_two.1 (show bs.length = 2 by omega)
      exact exists_char_four h₁ h₂ hd hd' (hbs e (.head [f])) (hbs f (.tail e (.head [])))

lemma begins_singleton_iff {b : UInt8} : Begins [b] ↔ ∃ bs, Encoding b bs := by
  constructor
  · rintro ⟨c, hc⟩
    obtain ⟨b', bs, henc, hbs⟩ := encoding_encodeChar c
    rw [henc] at hc
    obtain rfl := (List.cons_prefix_cons.1 hc).1
    exact ⟨bs, hbs⟩
  · rintro ⟨bs, hbs⟩
    obtain ⟨c, hc⟩ := hbs.exists_char
    exact ⟨c, bs, hc.symm⟩

/-! ### In the middle of a character -/

/-- `part` has been read as the beginning of a character, and what is known then tells how the
characters that begin with it go on. -/
structure Midway (part : List UInt8) (p : Progress) : Prop where
  reached : ∀ bs, partsFrom ready (part ++ bs) = partsFrom p bs
  begins : Begins part
  written : ∀ ds, Completes p ds → ∃ c, String.utf8EncodeChar c = part ++ ds
  completes : ∀ c, part <+: String.utf8EncodeChar c →
    ∃ ds, Completes p ds ∧ String.utf8EncodeChar c = part ++ ds

variable {part : List UInt8} {b : UInt8} {missing least greatest gathered : Nat}

/-- Any byte in the range can be followed by continuation bytes. -/
lemma completes_replicate (hmissing : 1 ≤ missing) (hb : least ≤ b.toNat ∧ b.toNat ≤ greatest) :
    Completes (awaiting missing least greatest gathered)
      (b :: List.replicate (missing - 1) 0x80) := by
  refine .intro hb.1 hb.2 (by rw [List.length_replicate]; omega) fun d hd => ?_
  rw [(List.mem_replicate.1 hd).2]
  exact ⟨Nat.le_refl _, by decide⟩

lemma exists_completes_of_le (hmissing : 1 ≤ missing) (hrange : least ≤ greatest)
    (hgreatest : greatest ≤ 0xbf) : ∃ bs, Completes (awaiting missing least greatest gathered) bs := by
  have hleast : (UInt8.ofNat least).toNat = least := toNat_ofNat_of_lt (by omega)
  exact ⟨_, completes_replicate hmissing (b := UInt8.ofNat least) (by omega)⟩

namespace Midway

lemma first {p : Progress} (h : begin b = ([], p)) : Midway [b] p where
  reached bs := by
    rw [List.singleton_append, partsFrom_cons, step, h]
    rfl
  begins := by
    have hexists : ∃ bs, Completes p bs := by
      cases leads_of_begin h with
      | two h₁ h₂ => exact exists_completes_of_le (by omega) (by omega) (by omega)
      | three h₁ h₂ =>
        exact exists_completes_of_le (by omega) (by split <;> split <;> omega) (by split <;> omega)
      | four h₁ h₂ =>
        exact exists_completes_of_le (by omega) (by split <;> split <;> omega) (by split <;> omega)
    obtain ⟨bs, hbs⟩ := hexists
    exact begins_singleton_iff.2 ⟨bs, .several h hbs⟩
  written ds hds := (Encoding.several h hds).exists_char
  completes c hc := by
    obtain ⟨b', bs, henc, hbs⟩ := encoding_encodeChar c
    rw [henc] at hc ⊢
    obtain rfl := (List.cons_prefix_cons.1 hc).1
    cases hbs with
    | single hb => cases h.symm.trans (begin_single hb)
    | several hbegin hbs =>
      cases h.symm.trans hbegin
      exact ⟨bs, hbs, rfl⟩

/-- Something is missing in the middle of a character. -/
lemma exists_completes {p : Progress} (h : Midway part p) :
    ∃ c ds, String.utf8EncodeChar c = part ++ ds ∧ Completes p ds := by
  obtain ⟨c, hc⟩ := h.begins
  obtain ⟨ds, hds, henc⟩ := h.completes c hc
  exact ⟨c, ds, henc, hds⟩

variable (h : Midway part (awaiting missing least greatest gathered))

include h

lemma one_le_missing : 1 ≤ missing := by
  obtain ⟨-, -, -, ⟨-, -, hlen, -⟩⟩ := h.exists_completes
  omega

/-- The range tells which bytes continue the character. -/
lemma begins_append_iff : Begins (part ++ [b]) ↔ least ≤ b.toNat ∧ b.toNat ≤ greatest := by
  constructor
  · rintro ⟨c, hc⟩
    obtain ⟨_, @⟨_, _, _, _, d, ds, hd, hd', -, -⟩, henc⟩ :=
      h.completes c ((List.prefix_append part [b]).trans hc)
    rw [henc, List.prefix_append_right_inj, List.cons_prefix_cons] at hc
    rw [hc.1]
    exact ⟨hd, hd'⟩
  · intro hb
    obtain ⟨c, hc⟩ := h.written _ (completes_replicate h.one_le_missing hb)
    refine ⟨c, List.replicate (missing - 1) 0x80, ?_⟩
    rw [hc, List.append_assoc, List.singleton_append]

lemma next (hb : least ≤ b.toNat ∧ b.toNat ≤ greatest) (hmissing : 1 < missing) :
    Midway (part ++ [b])
      (awaiting (missing - 1) 0x80 0xbf (gathered * 64 + (b.toNat - 0x80))) where
  reached bs := by
    have hstep : step (awaiting missing least greatest gathered) (UInt8.ofNat b.toNat) = _ :=
      step_within (UInt8.toNat_lt b) hb hmissing
    rw [UInt8.ofNat_toNat] at hstep
    rw [List.append_assoc, List.singleton_append, h.reached, partsFrom_cons, hstep]
    rfl
  begins := h.begins_append_iff.2 hb
  written ds hds := by
    obtain @⟨_, _, _, _, d, ds, hd, hd', hlen, hds⟩ := hds
    obtain ⟨c, hc⟩ := h.written (b :: d :: ds) (.intro hb.1 hb.2
      (by rw [List.length_cons]; omega) (List.forall_mem_cons.2 ⟨⟨hd, hd'⟩, hds⟩))
    exact ⟨c, by rw [hc, List.append_assoc, List.singleton_append]⟩
  completes c hc := by
    obtain ⟨_, @⟨_, _, _, _, d, ds, -, -, hlen, hds⟩, henc⟩ :=
      h.completes c ((List.prefix_append part [b]).trans hc)
    rw [henc, List.prefix_append_right_inj, List.cons_prefix_cons] at hc
    obtain rfl := hc.1
    obtain ⟨e, es, rfl⟩ := List.exists_cons_of_length_pos (show 0 < ds.length by omega)
    obtain ⟨he, hes⟩ := List.forall_mem_cons.1 hds
    rw [List.length_cons] at hlen
    exact ⟨e :: es, .intro he.1 he.2 (by omega) hes,
      by rw [henc, List.append_assoc, List.singleton_append]⟩

/-- The last byte that is missing ends the character. -/
lemma last (hb : least ≤ b.toNat ∧ b.toNat ≤ greatest) (hmissing : missing = 1) :
    ∃ c, String.utf8EncodeChar c = part ++ [b] ∧ ∀ bs,
      partsFrom (awaiting missing least greatest gathered) (b :: bs) =
        some c :: partsFrom ready bs := by
  obtain ⟨c, hc⟩ := h.written [b] (.intro hb.1 hb.2 (by rw [hmissing, List.length_nil]) nofun)
  refine ⟨c, hc, fun bs => ?_⟩
  rw [← h.reached, ← partsFrom_encodeChar, hc, List.append_assoc, List.singleton_append]

/-- A byte out of the range makes an invalid part of what has been read, and so does the end. -/
lemma stop (bs : List UInt8) (hbs : ∀ b, bs.head? = some b → ¬Begins (part ++ [b])) :
    partsFrom (awaiting missing least greatest gathered) bs = none :: partsFrom ready bs ∧
      InvalidPart part bs := by
  obtain ⟨c, ds, henc, hds⟩ := h.exists_completes
  constructor
  · cases bs with
    | nil => rfl
    | cons b bs =>
      have hout : ¬(least ≤ b.toNat ∧ b.toNat ≤ greatest) := fun hb =>
        hbs b rfl (h.begins_append_iff.2 hb)
      rw [partsFrom_cons, step, if_neg hout, partsFrom_cons]
      rfl
  · have hpart : part ≠ [] := by
      rintro rfl
      -- the machine has written nothing, while it writes a part for every byte that ends one
      have hreached := h.reached []
      cases hreached
    refine .cutOff hpart ⟨ds, henc.symm⟩ ?_ hbs
    rw [henc]
    intro hall
    cases List.self_eq_append_right.1 hall
    cases hds

end Midway

/-- The bytes of a character without its last ones are read to the middle of it. -/
lemma exists_midway {c : Char} (hne : part ≠ []) (hc : part <+: String.utf8EncodeChar c)
    (hc' : part ≠ String.utf8EncodeChar c) :
    ∃ missing least greatest gathered, Midway part (awaiting missing least greatest gathered) := by
  induction part using List.reverseRecOn with
  | nil => exact absurd rfl hne
  | append_singleton part b ih =>
    by_cases hpart : part = []
    · subst hpart
      obtain ⟨b', bs, henc, hbs⟩ := encoding_encodeChar c
      rw [henc] at hc hc'
      obtain rfl := (List.cons_prefix_cons.1 hc).1
      cases hbs with
      | single _ => exact absurd rfl hc'
      | several hbegin hbs =>
        cases hbs
        exact ⟨_, _, _, _, Midway.first hbegin⟩
    · have hbefore : part <+: String.utf8EncodeChar c := (List.prefix_append part [b]).trans hc
      have hbefore' : part ≠ String.utf8EncodeChar c := by
        rintro rfl
        have hlen := hc.length_le
        rw [List.length_append, List.length_singleton] at hlen
        omega
      obtain ⟨missing, least, greatest, gathered, h⟩ := ih hpart hbefore hbefore'
      have hmissing : 1 < missing := by
        -- with one byte missing, this byte would have been the last
        obtain ⟨_, ⟨-, -, hlen, -⟩, henc⟩ := h.completes c hbefore
        refine Nat.lt_of_not_le fun hle => hc' (hc.eq_of_length_le ?_)
        rw [henc, List.length_append, List.length_append, List.length_cons, List.length_singleton]
        omega
      exact ⟨_, _, _, _, h.next (h.begins_append_iff.1 ⟨c, hc⟩) hmissing⟩

/-! ### The machine reads the bytes as they are to be read -/

lemma begin_of_not_begins (h : ¬Begins [b]) : begin b = ([none], ready) := by
  obtain hb | hnone | ⟨p, hp⟩ := begin_cases b
  · exact absurd (begins_singleton_iff.2 ⟨[], .single hb⟩) h
  · exact hnone
  · exact absurd (Midway.first (begin_of_leads hp)).begins h

lemma not_begins_of_begin (h : begin b = ([none], ready)) : ¬Begins [b] := by
  rw [begins_singleton_iff]
  rintro ⟨bs, hbs⟩
  cases hbs with
  | single hb => cases h.symm.trans (begin_single hb)
  | several hbegin _ => cases h.symm.trans hbegin

/-- The text of the parts, with a mark for each invalid one. -/
def marked (ps : List (Option Char)) : List Char := ps.map (·.getD '\uFFFD')

/-- What the machine reads is read rightly, be it at rest or in the middle of a character. -/
lemma readsAs_partsFrom (bs : List UInt8) :
    ReadsAs bs (marked (partsFrom ready bs)) ∧
    ∀ part missing least greatest gathered,
      Midway part (awaiting missing least greatest gathered) →
      ReadsAs (part ++ bs) (marked (partsFrom (awaiting missing least greatest gathered) bs)) := by
  induction bs with
  | nil =>
    refine ⟨.done, fun part _ _ _ _ h => ?_⟩
    exact .mark (h.stop [] nofun).2 .done
  | cons b bs ih =>
    have hrest : ReadsAs (b :: bs) (marked (partsFrom ready (b :: bs))) := by
      rw [partsFrom_cons, step]
      obtain hb | hnone | ⟨p, hp⟩ := begin_cases b
      · obtain ⟨c, hc⟩ := (Encoding.single hb).exists_char
        have hread := partsFrom_encodeChar bs c
        rw [hc, List.singleton_append, partsFrom_cons, step] at hread
        rw [hread]
        have hchar := ReadsAs.char c ih.1
        rwa [hc] at hchar
      · rw [hnone]
        exact .mark (.stray (not_begins_of_begin hnone)) ih.1
      · have hmidway := Midway.first (begin_of_leads hp)
        rw [begin_of_leads hp]
        cases hp with
        | two _ _ => exact ih.2 [b] _ _ _ _ hmidway
        | three _ _ => exact ih.2 [b] _ _ _ _ hmidway
        | four _ _ => exact ih.2 [b] _ _ _ _ hmidway
    refine ⟨hrest, fun part missing least greatest gathered h => ?_⟩
    by_cases hb : least ≤ b.toNat ∧ b.toNat ≤ greatest
    · by_cases hmissing : missing = 1
      · obtain ⟨c, hc, hread⟩ := h.last hb hmissing
        rw [hread]
        have hchar := ReadsAs.char c ih.1
        rwa [hc, List.append_assoc] at hchar
      · have hone := h.one_le_missing
        have hnext := h.next hb (by omega)
        rw [← h.reached, ← List.singleton_append, ← List.append_assoc, hnext.reached]
        exact ih.2 _ _ _ _ _ hnext
    · -- the byte is read afresh
      obtain ⟨hread, hinvalid⟩ := h.stop (b :: bs) fun b' hb' => by
        cases hb'
        exact mt h.begins_append_iff.1 hb
      rw [hread]
      exact .mark hinvalid hrest

lemma partsFrom_invalidPart {part bs : List UInt8} (h : InvalidPart part bs) :
    partsFrom ready (part ++ bs) = none :: partsFrom ready bs := by
  cases h with
  | stray hb =>
    rw [List.singleton_append, partsFrom_cons, step, begin_of_not_begins hb]
    rfl
  | cutOff hne hc hc' hnext =>
    obtain ⟨_, _, _, _, hmidway⟩ := exists_midway hne hc hc'
    rw [hmidway.reached]
    exact (hmidway.stop bs hnext).1

/-- **The lossy reading.**  Any bytes are read as the text that has their characters, and a mark for
each of their invalid parts, and as no other text. -/
lemma readsAs_iff {bs : List UInt8} {cs : List Char} : ReadsAs bs cs ↔ decodeLossy bs = cs := by
  constructor
  · intro h
    induction h with
    | done => rfl
    | @char c bs cs _ ih =>
      rw [decodeLossy, parts, partsFrom_encodeChar, List.map_cons]
      exact congrArg (c :: ·) ih
    | mark hpart _ ih =>
      rw [decodeLossy, parts, partsFrom_invalidPart hpart, List.map_cons]
      exact congrArg ('\uFFFD' :: ·) ih
  · rintro rfl
    exact (readsAs_partsFrom bs).1

/-- Bytes that are read without a mark are those of the text. -/
lemma ReadsAs.eq_encode {bs : List UInt8} {cs : List Char} (h : ReadsAs bs cs)
    (hvalid : decode? bs ≠ none) : bs = encode cs := by
  induction h with
  | done => rfl
  | @char c bs cs _ ih =>
    rw [encode_cons, ← ih]
    intro hnone
    refine hvalid ?_
    rw [decode?, parts, partsFrom_encodeChar, List.mapM_cons, ← parts, ← decode?, hnone]
    rfl
  | mark hpart _ _ =>
    refine absurd ?_ hvalid
    rw [decode?, parts, partsFrom_invalidPart hpart, List.mapM_cons]
    rfl

/-- **The strict reading.**  The bytes of a text are read as it, and no other bytes are read. -/
lemma decode?_eq_some_iff {bs : List UInt8} {cs : List Char} :
    decode? bs = some cs ↔ bs = encode cs := by
  constructor
  · intro h
    have hread : ReadsAs bs (decodeLossy bs) := readsAs_iff.2 rfl
    have hbs := hread.eq_encode (by simp [h])
    rw [hbs, decode?_encode] at h
    rw [hbs, Option.some.inj h]
  · rintro rfl
    exact decode?_encode cs

/-- What comes before a text is read as without the text, and the text as it is. -/
lemma decodeLossy_append_encode (bs : List UInt8) (cs : List Char) :
    decodeLossy (bs ++ encode cs) = decodeLossy bs ++ cs :=
  readsAs_iff.1 ((readsAs_iff.2 rfl).append_encode cs)

end LaunchGuard.Text.Utf8
