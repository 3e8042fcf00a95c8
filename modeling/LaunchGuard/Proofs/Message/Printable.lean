/-
# The printable form of a payload

What is shown of a rejected payload goes into log lines, whoever has sent it.  Its first bytes are
read as a text, with a mark for each invalid part, and the text is shown escaped.  So the form is
made of printable ASCII without a bare quote or backslash, and its length is bounded by the number
of the bytes: a character never has more than eight characters for each of its bytes, and neither
has the mark, which stands for one byte at least.

The form tells nothing of what comes behind the first bytes, and if these are a text it tells all of
them.
-/
import LaunchGuard.Message
import LaunchGuard.Proofs.Text.Escaped
import LaunchGuard.Proofs.Text.InvalidParts

namespace LaunchGuard

open Text

/-! ### What the form is made of -/

variable {payload : List UInt8}

lemma toList_printable (payload : List UInt8) : (printable payload).toList =
    Escaped.encode (Utf8.decodeLossy (payload.take shownBytes)) := String.toList_ofList

lemma printable_printable (payload : List UInt8) : Printable (printable payload) := by
  intro c hc
  rw [toList_printable] at hc
  exact isPrintable_of_mem_escaped hc

/-- The printable form shows nothing of what a long enough cut takes away. -/
lemma printable_take {n : Nat} (hn : shownBytes ≤ n) :
    printable (payload.take n) = printable payload := by
  rw [printable, List.take_take, Nat.min_eq_left hn, printable]

/-- The escaped form of what is read has eight characters at most for each byte. -/
lemma length_escaped_le {bs : List UInt8} {cs : List Char} (h : Utf8.ReadsAs bs cs) :
    (Escaped.encode cs).length ≤ 8 * bs.length := by
  induction h with
  | done => exact Nat.zero_le _
  | @char c bs cs _ ih =>
    have hpart := (Escaped.part_encodeChar c).length_le
    rw [Escaped.encode_cons, List.length_append, List.length_append, String.length_utf8EncodeChar]
    omega
  | @mark part bs cs hpart _ ih =>
    have hmark : (Escaped.encodeChar '\uFFFD').length = 8 := by decide
    have hlen := List.length_pos_of_ne_nil hpart.ne_nil
    rw [Escaped.encode_cons, List.length_append, List.length_append, hmark]
    omega

/-- Payloads whose first bytes are texts have the same printable form only if these are the same. -/
lemma take_eq_of_printable_eq {other : List UInt8}
    (h : (payload.take shownBytes).toByteArray.IsValidUTF8)
    (h' : (other.take shownBytes).toByteArray.IsValidUTF8)
    (heq : printable other = printable payload) :
    other.take shownBytes = payload.take shownBytes := by
  obtain ⟨text, htext⟩ := Utf8.isValidUTF8_iff.1 h
  obtain ⟨text', htext'⟩ := Utf8.isValidUTF8_iff.1 h'
  have hshown := congrArg String.toList heq
  rw [toList_printable, toList_printable] at hshown
  have hread := Escaped.encode_injective hshown
  rw [htext, htext', Utf8.decodeLossy_encode, Utf8.decodeLossy_encode] at hread
  rw [htext, htext', hread]

/-- **The printable form.**  The first 32 bytes of a payload are read as a text, and the form has for
each of its characters in turn what the escape of that character is.  It is made of the characters
from the space to the tilde, and no quote and no backslash stands bare in it.  It has eight
characters at most for each byte that it shows, and so 256 at most.  Payloads with the same first
bytes have the same form; and if their first bytes are valid UTF-8, the form is the same only then. -/
theorem printable_shows_first_bytes (payload : List UInt8) :
    (∃ text parts, Utf8.ReadsAs (payload.take 32) text ∧ List.Forall₂ Escaped.Part text parts ∧
      (printable payload).toList = parts.flatten) ∧
    (∀ c ∈ (printable payload).toList, ' ' ≤ c ∧ c ≤ '~') ∧
    Escaped.Guarded (printable payload).toList ∧
    (printable payload).length ≤ 8 * (payload.take 32).length ∧
    (printable payload).length ≤ 256 ∧
    (∀ other : List UInt8, other.take 32 = payload.take 32 →
      printable other = printable payload) ∧
    (∀ other : List UInt8, (payload.take 32).toByteArray.IsValidUTF8 →
      (other.take 32).toByteArray.IsValidUTF8 →
      (printable other = printable payload ↔ other.take 32 = payload.take 32)) := by
  have hread : Utf8.ReadsAs (payload.take 32) (Utf8.decodeLossy (payload.take 32)) :=
    Utf8.readsAs_iff.2 rfl
  have hshown : (printable payload).toList =
      Escaped.encode (Utf8.decodeLossy (payload.take 32)) := toList_printable payload
  have hlen : (printable payload).length ≤ 8 * (payload.take 32).length := by
    rw [← String.length_toList, hshown]
    exact length_escaped_le hread
  have hsame : ∀ other : List UInt8, other.take 32 = payload.take 32 →
      printable other = printable payload := by
    intro other hother
    have htake : other.take shownBytes = payload.take shownBytes := hother
    rw [printable, htake, ← printable]
  refine ⟨?_, printable_printable payload, ?_, hlen, ?_, hsame, fun other hvalid hvalid' => ?_⟩
  · obtain ⟨parts, hparts, hflat⟩ := Escaped.exists_parts (Utf8.decodeLossy (payload.take 32))
    exact ⟨_, parts, hread, hparts, hshown.trans hflat⟩
  · rw [hshown]
    exact Escaped.guarded_encode _
  · have hfirst : (payload.take 32).length ≤ 32 := List.length_take_le 32 payload
    omega
  · exact ⟨take_eq_of_printable_eq hvalid hvalid', hsame other⟩

/-- A line feed is not taken for a backslash and the letter that it is escaped by. -/
theorem printable_shows_first_bytes_of_line_feed :
    printable (Utf8.bytesOf "SHOW\\nWINDOW") ≠ printable (Utf8.bytesOf "SHOW\nWINDOW") := by
  obtain ⟨-, -, -, -, -, -, hiff⟩ := printable_shows_first_bytes (Utf8.bytesOf "SHOW\nWINDOW")
  intro h
  have hfirst := (hiff (Utf8.bytesOf "SHOW\\nWINDOW") ?_ ?_).1 h
  · exact absurd hfirst (by decide)
  · exact Utf8.isValidUTF8_iff.2 ⟨"SHOW\nWINDOW".toList, by decide⟩
  · exact Utf8.isValidUTF8_iff.2 ⟨"SHOW\\nWINDOW".toList, by decide⟩

-- the printable form ends between the two bytes of the `é`
example : printable (Utf8.bytesOf "show_window for the account René and others") =
    "show_window for the account Ren\\u\x7bfffd\x7d" := by decide +kernel

end LaunchGuard
