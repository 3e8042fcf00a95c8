/-
# Reading written text back

The machine that reads bytes is followed through the one to four bytes of a character.  The first
byte brings it from rest to a state that tells how many bytes are missing, each further byte to the
next such state, and the last one back to rest with the character that was written.  So a text that
is written and read is the same text, with no mark of an invalid part.

The bytes of a character can also be told apart: the first of them is no continuation byte, and all
others are.  So a byte of ASCII stands for itself wherever it is found.
-/
import Mathlib.Tactic.Lemma
import LaunchGuard.Text.Utf8

namespace LaunchGuard.Text

/-! ### The size of a text -/

@[simp] lemma size_nil : size [] = 0 := rfl

@[simp] lemma size_cons (c : Char) (cs : List Char) : size (c :: cs) = c.utf8Size + size cs := rfl

@[simp] lemma size_append (cs ds : List Char) : size (cs ++ ds) = size cs + size ds := by
  induction cs with
  | nil => simp
  | cons c cs ih => simp [ih, Nat.add_assoc]

lemma size_mono {p cs : List Char} (h : p <+: cs) : size p ≤ size cs := by
  obtain ⟨r, rfl⟩ := h
  simp

lemma size_eq_utf8ByteSize (cs : List Char) : size cs = (String.ofList cs).utf8ByteSize := by
  induction cs with
  | nil => rfl
  | cons c cs ih =>
    rw [size_cons, ih, ← List.singleton_append, String.ofList_append, String.utf8ByteSize_append,
      ← String.singleton_eq_ofList, String.utf8ByteSize_singleton]

@[simp] lemma size_toList (s : String) : size s.toList = s.utf8ByteSize := by
  rw [size_eq_utf8ByteSize, String.ofList_toList]

namespace Utf8

@[simp] lemma length_encode (cs : List Char) : (encode cs).length = size cs := by
  induction cs with
  | nil => rfl
  | cons c cs ih => simp [ih]

/-! ### Single bytes -/

open Progress

lemma toNat_ofNat_of_lt {n : Nat} (h : n < 256) : (UInt8.ofNat n).toNat = n := by
  rw [UInt8.toNat_ofNat']
  exact Nat.mod_eq_of_lt h

lemma begin_one {n : Nat} (h : n < 0x80) :
    begin (UInt8.ofNat n) = ([some (Char.ofNat n)], ready) := by
  simp only [begin, toNat_ofNat_of_lt (show n < 256 by omega)]
  rw [if_pos h]

lemma begin_two {n : Nat} (h₁ : 0xc2 ≤ n) (h₂ : n < 0xe0) :
    begin (UInt8.ofNat n) = ([], awaiting 1 0x80 0xbf (n - 0xc0)) := by
  simp only [begin, toNat_ofNat_of_lt (show n < 256 by omega)]
  rw [if_neg (by omega), if_neg (by omega), if_pos h₂]

/-- The first byte of a character of three bytes.  After `e0` the range leaves out overlong forms,
after `ed` it leaves out surrogates. -/
lemma begin_three {n : Nat} (h₁ : 0xe0 ≤ n) (h₂ : n < 0xf0) :
    begin (UInt8.ofNat n) =
      ([], awaiting 2 (if n = 0xe0 then 0xa0 else 0x80) (if n = 0xed then 0x9f else 0xbf)
        (n - 0xe0)) := by
  simp only [begin, toNat_ofNat_of_lt (show n < 256 by omega)]
  rw [if_neg (by omega), if_neg (by omega), if_neg (by omega)]
  by_cases he0 : n = 0xe0
  · subst he0; rfl
  · by_cases hed : n = 0xed
    · subst hed; rfl
    · rw [if_neg he0, if_neg hed, if_pos h₂, if_neg he0, if_neg hed]

/-- The first byte of a character of four bytes.  After `f0` the range leaves out overlong forms,
after `f4` it leaves out values beyond the last character. -/
lemma begin_four {n : Nat} (h₁ : 0xf0 ≤ n) (h₂ : n ≤ 0xf4) :
    begin (UInt8.ofNat n) =
      ([], awaiting 3 (if n = 0xf0 then 0x90 else 0x80) (if n = 0xf4 then 0x8f else 0xbf)
        (n - 0xf0)) := by
  obtain rfl | rfl | rfl | rfl | rfl :
      n = 0xf0 ∨ n = 0xf1 ∨ n = 0xf2 ∨ n = 0xf3 ∨ n = 0xf4 := by omega
  all_goals rfl

lemma step_within {missing least greatest gathered n : Nat} (hn : n < 256)
    (h : least ≤ n ∧ n ≤ greatest) (hm : 1 < missing) :
    step (awaiting missing least greatest gathered) (UInt8.ofNat n) =
      ([], awaiting (missing - 1) 0x80 0xbf (gathered * 64 + (n - 0x80))) := by
  simp only [step, toNat_ofNat_of_lt hn]
  rw [if_pos h, if_neg (by omega)]

lemma step_last {least greatest gathered n : Nat} (hn : n < 256)
    (h : least ≤ n ∧ n ≤ greatest) :
    step (awaiting 1 least greatest gathered) (UInt8.ofNat n) =
      ([some (Char.ofNat (gathered * 64 + (n - 0x80)))], ready) := by
  simp only [step, toNat_ofNat_of_lt hn]
  rw [if_pos h, if_pos (by omega)]

/-! ### Characters of one to four bytes -/

variable (bs : List UInt8)

lemma partsFrom_one {n : Nat} (h : n < 0x80) :
    partsFrom ready (UInt8.ofNat n :: bs) = some (Char.ofNat n) :: partsFrom ready bs := by
  rw [partsFrom_cons, step, begin_one h]
  rfl

lemma partsFrom_two {n : Nat} (h₁ : 0x80 ≤ n) (h₂ : n < 0x800) :
    partsFrom ready (UInt8.ofNat (n / 64 % 0x20 + 0xc0) :: UInt8.ofNat (n % 0x40 + 0x80) :: bs) =
      some (Char.ofNat n) :: partsFrom ready bs := by
  rw [partsFrom_cons, step, begin_two (by omega) (by omega), partsFrom_cons,
    step_last (by omega) (by omega)]
  -- the bits that the two bytes carry are those of the character
  have hn : (n / 64 % 0x20 + 0xc0 - 0xc0) * 64 + (n % 0x40 + 0x80 - 0x80) = n := by omega
  rw [hn]
  rfl

lemma partsFrom_three {n : Nat} (h₁ : 0x800 ≤ n) (h₂ : n < 0x10000)
    (hs : n < 0xd800 ∨ 0xdfff < n) :
    partsFrom ready (UInt8.ofNat (n / 4096 % 0x10 + 0xe0) :: UInt8.ofNat (n / 64 % 0x40 + 0x80) ::
        UInt8.ofNat (n % 0x40 + 0x80) :: bs) =
      some (Char.ofNat n) :: partsFrom ready bs := by
  -- the second byte is in its narrower range, for the character is no surrogate and not too short
  rw [partsFrom_cons, step, begin_three (by omega) (by omega), partsFrom_cons,
    step_within (by omega) (by split <;> split <;> omega) (by omega), partsFrom_cons,
    step_last (by omega) (by omega)]
  have hn : ((n / 4096 % 0x10 + 0xe0 - 0xe0) * 64 + (n / 64 % 0x40 + 0x80 - 0x80)) * 64 +
      (n % 0x40 + 0x80 - 0x80) = n := by omega
  rw [hn]
  rfl

lemma partsFrom_four {n : Nat} (h₁ : 0x10000 ≤ n) (h₂ : n < 0x110000) :
    partsFrom ready (UInt8.ofNat (n / 262144 % 0x08 + 0xf0) ::
        UInt8.ofNat (n / 4096 % 0x40 + 0x80) :: UInt8.ofNat (n / 64 % 0x40 + 0x80) ::
        UInt8.ofNat (n % 0x40 + 0x80) :: bs) =
      some (Char.ofNat n) :: partsFrom ready bs := by
  rw [partsFrom_cons, step, begin_four (by omega) (by omega), partsFrom_cons,
    step_within (by omega) (by split <;> split <;> omega) (by omega), partsFrom_cons,
    step_within (by omega) (by omega) (by omega), partsFrom_cons,
    step_last (by omega) (by omega)]
  have hn : (((n / 262144 % 0x08 + 0xf0 - 0xf0) * 64 + (n / 4096 % 0x40 + 0x80 - 0x80)) * 64 +
      (n / 64 % 0x40 + 0x80 - 0x80)) * 64 + (n % 0x40 + 0x80 - 0x80) = n := by omega
  rw [hn]
  rfl

/-- A character that is written is read back, whatever follows it. -/
lemma partsFrom_encodeChar (c : Char) :
    partsFrom ready (String.utf8EncodeChar c ++ bs) = some c :: partsFrom ready bs := by
  have hvalid : c.val.toNat < 0xd800 ∨ 0xdfff < c.val.toNat ∧ c.val.toNat < 0x110000 := c.valid
  have hc : Char.ofNat c.val.toNat = c := Char.ofNat_toNat c
  simp only [String.utf8EncodeChar]
  -- one case for each number of bytes
  split
  · rw [List.singleton_append, partsFrom_one bs (by omega), hc]
  split
  · simp only [List.cons_append, List.nil_append]
    rw [partsFrom_two bs (by omega) (by omega), hc]
  split
  · simp only [List.cons_append, List.nil_append]
    rw [partsFrom_three bs (by omega) (by omega) (by omega), hc]
  · simp only [List.cons_append, List.nil_append]
    rw [partsFrom_four bs (by omega) (by omega), hc]

/-- A text that is written and read yields its characters. -/
lemma parts_encode (cs : List Char) : parts (encode cs) = cs.map some := by
  induction cs with
  | nil => rfl
  | cons c cs ih => rw [encode_cons, parts, partsFrom_encodeChar, ← parts, ih, List.map_cons]

/-- The lossy reading of a text that was written is the text. -/
@[simp] lemma decodeLossy_encode (cs : List Char) : decodeLossy (encode cs) = cs := by
  rw [decodeLossy, parts_encode, List.map_map]
  exact List.map_id' cs

/-- So is the strict one. -/
lemma decode?_encode (cs : List Char) : decode? (encode cs) = some cs := by
  rw [decode?, parts_encode]
  induction cs with
  | nil => rfl
  | cons c cs ih =>
    rw [List.map_cons, List.mapM_cons, ih]
    rfl

/-- Texts with the same bytes are the same. -/
lemma bytesOf_inj {s t : String} : bytesOf s = bytesOf t ↔ s = t := by
  refine ⟨fun h => ?_, congrArg bytesOf⟩
  have htext : some s.toList = some t.toList := by
    rw [← decode?_encode s.toList, ← decode?_encode t.toList]
    exact congrArg decode? h
  exact String.toList_inj.1 (Option.some.inj htext)

/-- Bytes are valid if they are those of a text. -/
lemma isValidUTF8_iff {bs : List UInt8} : bs.toByteArray.IsValidUTF8 ↔ ∃ cs, bs = encode cs := by
  constructor
  · rintro ⟨cs, hcs⟩
    exact ⟨cs, List.toByteArray_inj.1 hcs⟩
  · rintro ⟨cs, rfl⟩
    exact ⟨cs, rfl⟩

/-! ### First bytes and continuation bytes -/

lemma first_ofNat {n : Nat} (hn : n < 256) (h : n < 0x80 ∨ 0xc0 ≤ n) :
    UInt8.ofNat n < 0x80 ∨ 0xc0 ≤ UInt8.ofNat n := by
  rw [UInt8.lt_iff_toNat_lt, UInt8.le_iff_toNat_le, toNat_ofNat_of_lt hn]
  exact h

lemma continuation_ofNat (n : Nat) :
    0x80 ≤ UInt8.ofNat (n % 0x40 + 0x80) ∧ UInt8.ofNat (n % 0x40 + 0x80) < 0xc0 := by
  rw [UInt8.lt_iff_toNat_lt, UInt8.le_iff_toNat_le, toNat_ofNat_of_lt (by omega)]
  constructor
  · change 0x80 ≤ n % 0x40 + 0x80
    omega
  · change n % 0x40 + 0x80 < 0xc0
    omega

lemma forall_mem_continuation (ns : List Nat) :
    ∀ d ∈ ns.map fun n => UInt8.ofNat (n % 0x40 + 0x80), 0x80 ≤ d ∧ d < 0xc0 := by
  rw [List.forall_mem_map]
  exact fun n _ => continuation_ofNat n

/-- A character is written as a first byte, which is no continuation byte, and bytes that are. -/
lemma encodeChar_eq_cons (c : Char) :
    ∃ b rest, String.utf8EncodeChar c = b :: rest ∧ (b < 0x80 ∨ 0xc0 ≤ b) ∧
      ∀ d ∈ rest, 0x80 ≤ d ∧ d < 0xc0 := by
  have hvalid : c.val.toNat < 0xd800 ∨ 0xdfff < c.val.toNat ∧ c.val.toNat < 0x110000 := c.valid
  simp only [String.utf8EncodeChar]
  split
  · exact ⟨_, _, rfl, first_ofNat (by omega) (by omega), forall_mem_continuation []⟩
  split
  · exact ⟨_, _, rfl, first_ofNat (by omega) (by omega), forall_mem_continuation [_]⟩
  split
  · exact ⟨_, _, rfl, first_ofNat (by omega) (by omega), forall_mem_continuation [_, _]⟩
  · exact ⟨_, _, rfl, first_ofNat (by omega) (by omega), forall_mem_continuation [_, _, _]⟩

/-! ### The bytes of ASCII -/

lemma encodeChar_of_lt {c : Char} (h : c.toNat < 0x80) :
    String.utf8EncodeChar c = [UInt8.ofNat c.toNat] := by
  have hc : c.val.toNat ≤ 0x7f := Nat.le_of_lt_succ h
  rw [String.utf8EncodeChar]
  exact if_pos hc

/-- The bytes of a character beyond ASCII are not those of ASCII. -/
lemma le_of_mem_encodeChar {c : Char} (h : 0x80 ≤ c.toNat) {b : UInt8}
    (hb : b ∈ String.utf8EncodeChar c) : 0x80 ≤ b := by
  obtain ⟨first, rest, hencode, hfirst | hfirst, hrest⟩ := encodeChar_eq_cons c
  · -- a first byte of ASCII would be read back as a character of ASCII
    have hlt : first.toNat < 0x80 := UInt8.lt_iff_toNat_lt.1 hfirst
    have hread := partsFrom_encodeChar [] c
    rw [hencode, List.cons_append, ← UInt8.ofNat_toNat (x := first), partsFrom_one _ hlt] at hread
    have hc : Char.ofNat first.toNat = c := Option.some.inj (List.cons.inj hread).1
    have hnat : c.toNat = first.toNat := by
      rw [← hc, Char.ofNat, dif_pos (.inl (by omega))]
      rfl
    omega
  · rw [hencode] at hb
    rcases List.mem_cons.1 hb with rfl | hb
    · exact UInt8.le_trans (by decide) hfirst
    · exact (hrest b hb).1

/-- A character of ASCII whose byte is in a text is in the text. -/
lemma mem_of_ofNat_mem_encode {c : Char} (hc : c.toNat < 0x80) {cs : List Char}
    (h : UInt8.ofNat c.toNat ∈ encode cs) : c ∈ cs := by
  obtain ⟨d, hd, hbyte⟩ := List.mem_flatMap.1 h
  by_cases hascii : d.toNat < 0x80
  · rw [encodeChar_of_lt hascii, List.mem_singleton] at hbyte
    have hnat : c.toNat = d.toNat := by
      rw [← toNat_ofNat_of_lt (show c.toNat < 256 by omega), hbyte, toNat_ofNat_of_lt (by omega)]
    rw [← Char.ofNat_toNat c, hnat, Char.ofNat_toNat]
    exact hd
  · have hle := UInt8.le_iff_toNat_le.1 (le_of_mem_encodeChar (Nat.not_lt.1 hascii) hbyte)
    rw [toNat_ofNat_of_lt (by omega)] at hle
    exact absurd hle (Nat.not_le.2 hc)

end Utf8

end LaunchGuard.Text
