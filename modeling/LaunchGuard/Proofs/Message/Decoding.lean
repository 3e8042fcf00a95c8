/-
# Reading any reply

A peer may send any bytes as its reply.  They are rejected if there are some and they lack the
marker; otherwise what follows the marker is read as a text, with a mark for each invalid part, and
the padding at its end is dropped.  If nothing is left, the reply is taken for the empty one.

So padding that is sent after a reply does not matter, even if the reply breaks off in the middle of
a character: padding does not end that character, but makes it an invalid part as the end does.
-/
import LaunchGuard.Proofs.Message.RoundTrip
import LaunchGuard.Proofs.Text.InvalidParts

namespace LaunchGuard.Reply

open Text

/-! ### What a reply is read as -/

variable {payload : List UInt8}

lemma ofName_eq_empty_iff {name : List Char} : ofName name = empty ↔ name = [] := by
  cases name with
  | nil => exact iff_of_true rfl rfl
  | cons c cs => simp [ofName]

/-- A reply is empty if it has no bytes, or only padding after the marker. -/
lemma decode_eq_empty_iff :
    decode payload = .ok empty ↔ payload = [] ∨ ∃ rest, payload = Utf8.bytesOf ownerMarker ++ rest ∧
      ∀ c ∈ Utf8.decodeLossy rest, isPadding c = true := by
  by_cases hmarked : Utf8.bytesOf ownerMarker <+: payload
  · obtain ⟨rest, rfl⟩ := hmarked
    have hempty : decode (Utf8.bytesOf ownerMarker ++ rest) = .ok empty ↔
        (Utf8.decodeLossy rest).rdropWhile isPadding = [] := by
      rw [decode_marked, Except.ok.injEq, ofName_eq_empty_iff]
      rfl
    rw [hempty, List.rdropWhile_eq_nil_iff]
    constructor
    · exact fun h => .inr ⟨rest, rfl, h⟩
    · rintro (hnil | ⟨rest', heq, h⟩)
      · cases hnil
      · rwa [List.append_cancel_left heq]
  · by_cases hnil : payload = []
    · subst hnil
      exact iff_of_true rfl (.inl rfl)
    · have herror := decode_eq_error_iff.2 ⟨hnil, hmarked, rfl⟩
      rw [herror]
      constructor
      · intro h
        cases h
      · rintro (h | ⟨rest, rfl, -⟩)
        · exact absurd h hnil
        · exact absurd (List.prefix_append _ _) hmarked

/-- **Reading any reply.**  Any bytes are read.  They are rejected exactly if there are some and they
lack the marker.  A name is read exactly if it is what is left, without the longest tail of blanks
and NUL characters, of the text after the marker, which has a mark for each invalid part; what stands
further inside is kept, and a name is never empty and never ends in such a character.  If nothing is
left, the reply is the empty one.  And a text of such characters behind the bytes changes nothing,
whatever the bytes are and wherever they break off. -/
theorem decode_reads_any_bytes (payload : List UInt8) :
    (∀ f, decode payload = .error f ↔ payload ≠ [] ∧ ¬Utf8.bytesOf "USER_INFO:" <+: payload ∧
      f = .missingMarker (printable payload)) ∧
    (decode payload = .ok empty ↔
      payload = [] ∨ ∃ rest text, payload = Utf8.bytesOf "USER_INFO:" ++ rest ∧
        Utf8.ReadsAs rest text ∧ ∀ c ∈ text, isPadding c = true) ∧
    (∀ name, decode payload = .ok (owner name) ↔
      name ≠ "" ∧ ∃ rest tail, payload = Utf8.bytesOf "USER_INFO:" ++ rest ∧
        Utf8.ReadsAs rest (name.toList ++ tail) ∧ (∀ c ∈ tail, isPadding c = true) ∧
        ∀ c, name.toList.getLast? = some c → isPadding c = false) ∧
    (∀ bs padding, (∀ c ∈ padding, isPadding c = true) →
      decode (Utf8.bytesOf "USER_INFO:" ++ bs ++ Utf8.encode padding) =
        decode (Utf8.bytesOf "USER_INFO:" ++ bs)) := by
  have hmarker : Utf8.bytesOf "USER_INFO:" = Utf8.bytesOf ownerMarker := rfl
  rw [hmarker]
  refine ⟨fun f => decode_eq_error_iff, ?_, fun name => ?_, fun bs padding hpadding => ?_⟩
  · rw [decode_eq_empty_iff]
    simp only [Utf8.readsAs_iff, exists_and_left, exists_eq_left']
  · rw [decode_eq_owner_iff]
    simp only [eq_rdropWhile_iff, Utf8.readsAs_iff]
    constructor
    · rintro ⟨rest, hpayload, hne, tail, htext, htail, hlast⟩
      exact ⟨hne, rest, tail, hpayload, htext, htail, hlast⟩
    · rintro ⟨hne, rest, tail, hpayload, htext, htail, hlast⟩
      exact ⟨rest, hpayload, hne, tail, htext, htail, hlast⟩
  · rw [List.append_assoc, decode_marked, decode_marked, Utf8.decodeLossy_append_encode]
    exact congrArg (Except.ok ∘ ofName) (rdropWhile_append hpadding)

-- `é` without its last byte, before an ideographic space, whose first byte is not that byte
example : decode (Utf8.bytesOf "USER_INFO:Andr" ++ [0xc3] ++ Utf8.bytesOf "\u3000") =
    .ok (owner "Andr\uFFFD") := by decide

end LaunchGuard.Reply
