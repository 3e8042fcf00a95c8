/-
# A name on its way over the wire

The running instance writes the name of its user into a reply, and a later launch reads it there.
What arrives is the canonical form of the name: the longest beginning that fits, without the padding
at its end.  So exactly the names that are not empty, that fit, and that do not end in padding
arrive as they are, and what has arrived once arrives unchanged a second time.
-/
import LaunchGuard.Proofs.Message.Cut
import LaunchGuard.Proofs.Text.Trimmed

namespace LaunchGuard.Reply

open Text

/-! ### Canonical names -/

lemma canonical_eq_rdropWhile (s : String) :
    canonical s = (fitting nameRoom s.toList).rdropWhile isPadding := rfl

lemma canonical_prefix_fitting (s : String) : canonical s <+: fitting nameRoom s.toList :=
  List.rdropWhile_prefix isPadding _

lemma size_canonical_le (s : String) : size (canonical s) ≤ nameRoom :=
  Nat.le_trans (size_mono (canonical_prefix_fitting s))
    (longestFitting_fitting nameRoom s.toList).size_le

/-- A name is canonical if it fits and does not end in padding. -/
lemma canonical_eq_toList_iff (s : String) :
    canonical s = s.toList ↔
      s.utf8ByteSize ≤ nameRoom ∧ ∀ c, s.toList.getLast? = some c → isPadding c = false := by
  rw [← size_toList, ← fitting_eq_self_iff, ← rdropWhile_eq_self_iff, canonical_eq_rdropWhile]
  constructor
  · intro h
    -- nothing that was cut off comes back when padding is dropped
    have hfit : fitting nameRoom s.toList = s.toList := by
      have hle : s.toList.length ≤ (fitting nameRoom s.toList).length := by
        conv_lhs => rw [← h]
        exact (List.rdropWhile_prefix isPadding _).length_le
      exact (longestFitting_fitting nameRoom s.toList).isPrefix.eq_of_length_le hle
    rw [hfit] at h
    exact ⟨hfit, h⟩
  · rintro ⟨hfit, h⟩
    rw [hfit, h]

/-- The canonical form of a canonical form is the same. -/
lemma canonical_ofList_canonical (s : String) :
    canonical (String.ofList (canonical s)) = canonical s := by
  have hfit : fitting nameRoom (canonical s) = canonical s :=
    fitting_eq_self_iff.2 (size_canonical_le s)
  rw [canonical_eq_rdropWhile (String.ofList _), String.toList_ofList, hfit,
    canonical_eq_rdropWhile s]
  exact List.rdropWhile_idempotent _ _

/-! ### Writing and reading -/

lemma ofName_eq_owner_iff {name : List Char} {s : String} :
    ofName name = owner s ↔ s ≠ "" ∧ name = s.toList := by
  cases name with
  | nil =>
    constructor
    · intro h
      cases h
    · rintro ⟨hs, hnil⟩
      exact absurd (String.toList_eq_nil_iff.1 hnil.symm) hs
  | cons c cs =>
    rw [ofName, if_neg (by simp), owner.injEq]
    constructor
    · rintro rfl
      rw [String.toList_ofList]
      exact ⟨by simp, rfl⟩
    · rintro ⟨-, h⟩
      rw [h, String.ofList_toList]

/-- A payload with the marker is read as the name after it, without its padding. -/
lemma decode_marked (bs : List UInt8) :
    decode (Utf8.bytesOf ownerMarker ++ bs) =
      .ok (ofName (dropTail isPadding (Utf8.decodeLossy bs))) := by
  have hne : (Utf8.bytesOf ownerMarker ++ bs).isEmpty = false := rfl
  have hpre : (Utf8.bytesOf ownerMarker).isPrefixOf (Utf8.bytesOf ownerMarker ++ bs) = true :=
    List.isPrefixOf_iff_prefix.2 (List.prefix_append _ _)
  rw [decode, hne, hpre]
  simp

/-- A reply names somebody if it has the marker and something is left of what follows it, once the
padding is dropped. -/
lemma decode_eq_owner_iff {payload : List UInt8} {name : String} :
    decode payload = .ok (owner name) ↔
      ∃ rest, payload = Utf8.bytesOf ownerMarker ++ rest ∧ name ≠ "" ∧
        name.toList = (Utf8.decodeLossy rest).rdropWhile isPadding := by
  by_cases hmarked : Utf8.bytesOf ownerMarker <+: payload
  · obtain ⟨bs, rfl⟩ := hmarked
    rw [decode_marked, Except.ok.injEq, ofName_eq_owner_iff]
    constructor
    · rintro ⟨hne, hname⟩
      exact ⟨bs, rfl, hne, hname.symm⟩
    · rintro ⟨rest, heq, hne, hname⟩
      rw [List.append_cancel_left heq]
      exact ⟨hne, hname.symm⟩
  · have hnot : (Utf8.bytesOf ownerMarker).isPrefixOf payload = false := by
      rw [← Bool.not_eq_true, List.isPrefixOf_iff_prefix]
      exact hmarked
    constructor
    · intro h
      rw [decode, hnot] at h
      split at h
      · cases h
      · cases h
    · rintro ⟨rest, rfl, -⟩
      exact absurd (List.prefix_append _ _) hmarked

/-- A reply is rejected if it has bytes and lacks the marker. -/
lemma decode_eq_error_iff {payload : List UInt8} {f : MessageFault} :
    decode payload = .error f ↔ payload ≠ [] ∧ ¬Utf8.bytesOf ownerMarker <+: payload ∧
      f = .missingMarker (printable payload) := by
  rw [← List.isPrefixOf_iff_prefix, decode]
  by_cases hnil : payload = []
  · simp [hnil]
  · have hne : payload.isEmpty = false := by simpa using hnil
    rw [hne]
    cases hmarked : (Utf8.bytesOf ownerMarker).isPrefixOf payload with
    | true => simp
    | false => simp [hnil, eq_comm]

/-- A name that goes over the wire arrives in its canonical form. -/
lemma decode_encode_owner (s : String) :
    decode (encode (owner s)) = .ok (ofName (canonical s)) := by
  rw [encode_owner, decode_marked, Utf8.decodeLossy_encode, canonical]

/-- A name arrives as it is if it is not empty and canonical. -/
lemma decode_encode_owner_eq_iff (s m : String) :
    decode (encode (owner s)) = .ok (owner m) ↔ m ≠ "" ∧ canonical s = m.toList := by
  rw [decode_encode_owner, Except.ok.injEq, ofName_eq_owner_iff]

/-- **The round trip of a name.**  Every name arrives, as its canonical form: the longest beginning
of at most 246 bytes without its trailing blanks and NUL characters, or no name if nothing is left.
The names that arrive unchanged are exactly those that are not empty, fit, and do not end in such a
character; and what has arrived arrives unchanged again. -/
theorem owner_round_trip (s : String) :
    (∃ p, LongestFitting 246 s.toList p ∧ canonical s = p.rdropWhile isPadding) ∧
    decode (encode (owner s)) =
      .ok (if canonical s = [] then empty else owner (String.ofList (canonical s))) ∧
    (decode (encode (owner s)) = .ok (owner s) ↔
      s ≠ "" ∧ s.utf8ByteSize ≤ 246 ∧ ∀ c, s.toList.getLast? = some c → isPadding c = false) ∧
    (∀ m, decode (encode (owner s)) = .ok (owner m) →
      decode (encode (owner m)) = .ok (owner m)) := by
  refine ⟨⟨_, longestFitting_fitting 246 s.toList, rfl⟩, ?_, ?_, ?_⟩
  · rw [decode_encode_owner, ofName]
    simp only [List.isEmpty_iff]
  · rw [decode_encode_owner_eq_iff, canonical_eq_toList_iff]
    rfl
  · intro m hm
    rw [decode_encode_owner_eq_iff] at hm ⊢
    obtain ⟨hne, hcan⟩ := hm
    have hm' : m = String.ofList (canonical s) := by rw [hcan, String.ofList_toList]
    refine ⟨hne, ?_⟩
    rw [← hcan, hm', canonical_ofList_canonical]

end LaunchGuard.Reply
