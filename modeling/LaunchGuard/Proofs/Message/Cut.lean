/-
# Cutting a name to its room

A reply has room for a limited number of bytes, and a longer name is cut by a search that goes back
from the limit until it meets a boundary between characters.  Seen from the characters, the search
finds the longest beginning of the name that fits:

* a place in the bytes of a text is a boundary exactly if some beginning of the text ends there;
* so the last boundary that is not beyond the limit ends the longest beginning within the limit;
* and the bytes up to there are the bytes of that beginning.

Since a character has four bytes at most, the search is over after three steps.
-/
import LaunchGuard.Message
import LaunchGuard.Proofs.Text.Utf8

namespace LaunchGuard.Reply

open Text

/-- `p` is the longest beginning of a text, in whole characters, that has at most `room` bytes. -/
structure LongestFitting (room : Nat) (cs p : List Char) : Prop where
  isPrefix : p <+: cs
  size_le : size p ≤ room
  longest : ∀ q, q <+: cs → size q ≤ room → q <+: p

lemma longestFitting_fitting (room : Nat) (cs : List Char) :
    LongestFitting room cs (fitting room cs) := by
  induction cs generalizing room with
  | nil => exact ⟨List.prefix_rfl, Nat.zero_le _, fun q hq _ => hq⟩
  | cons c cs ih =>
    by_cases hc : c.utf8Size ≤ room
    · obtain ⟨h₁, h₂, h₃⟩ := ih (room - c.utf8Size)
      rw [fitting, if_pos hc]
      refine ⟨List.cons_prefix_cons.2 ⟨rfl, h₁⟩, by rw [size_cons]; omega, ?_⟩
      intro q hq hs
      cases q with
      | nil => exact List.nil_prefix
      | cons d q =>
        obtain ⟨rfl, hq'⟩ := List.cons_prefix_cons.1 hq
        rw [size_cons] at hs
        exact List.cons_prefix_cons.2 ⟨rfl, h₃ q hq' (by omega)⟩
    · rw [fitting, if_neg hc]
      refine ⟨List.nil_prefix, Nat.zero_le _, ?_⟩
      intro q hq hs
      cases q with
      | nil => exact List.nil_prefix
      | cons d q =>
        obtain ⟨rfl, -⟩ := List.cons_prefix_cons.1 hq
        rw [size_cons] at hs
        omega

/-- What was cut off begins with a character that has no room any more. -/
lemma LongestFitting.lt_size_next {room : Nat} {cs p rest : List Char} {c : Char}
    (h : LongestFitting room cs p) (hcs : cs = p ++ c :: rest) : room < size p + c.utf8Size := by
  refine Nat.lt_of_not_le fun hle => ?_
  have hq : p ++ [c] <+: cs := ⟨rest, by rw [hcs, List.append_assoc, List.singleton_append]⟩
  have hsize : size (p ++ [c]) = size p + c.utf8Size := by simp
  have hlen := (h.longest (p ++ [c]) hq (by omega)).length_le
  rw [List.length_append, List.length_singleton] at hlen
  omega

/-- A text is left whole, or the room that stays unused is too small for its next character. -/
lemma LongestFitting.eq_or_next {room : Nat} {cs p : List Char} (h : LongestFitting room cs p) :
    p = cs ∨ ∃ c rest, cs = p ++ c :: rest ∧ room < size p + c.utf8Size := by
  obtain ⟨_ | ⟨c, rest⟩, hcs⟩ := h.isPrefix
  · exact .inl ((List.append_nil p).symm.trans hcs)
  · exact .inr ⟨c, rest, hcs.symm, h.lt_size_next hcs.symm⟩

/-- A text that fits, and no other, is left whole. -/
lemma fitting_eq_self_iff {room : Nat} {cs : List Char} :
    fitting room cs = cs ↔ size cs ≤ room := by
  have h := longestFitting_fitting room cs
  constructor
  · intro he
    rw [← he]
    exact h.size_le
  · intro hs
    exact h.isPrefix.eq_of_length_le (h.longest cs List.prefix_rfl hs).length_le

/-! ### Boundaries in the bytes of a text -/

section Boundary

variable (c : Char) (bs : List UInt8) {i : Nat}

lemma isBoundary_start : isBoundary (String.utf8EncodeChar c ++ bs) 0 = true := by
  obtain ⟨b, rest, hb, hfirst, -⟩ := Utf8.encodeChar_eq_cons c
  simpa [isBoundary, hb] using hfirst

/-- Inside a character there is no boundary. -/
lemma isBoundary_inside (h₀ : 0 < i) (hi : i < c.utf8Size) :
    isBoundary (String.utf8EncodeChar c ++ bs) i = false := by
  obtain ⟨b, rest, hb, -, hrest⟩ := Utf8.encodeChar_eq_cons c
  have hlen : rest.length + 1 = c.utf8Size := by
    rw [← String.length_utf8EncodeChar, hb, List.length_cons]
  obtain ⟨j, rfl⟩ : ∃ j, i = j + 1 := ⟨i - 1, by omega⟩
  have hj : j < rest.length := by omega
  have hd := hrest _ (List.getElem_mem hj)
  have hdrop : (String.utf8EncodeChar c ++ bs).drop (j + 1) =
      rest[j] :: (rest.drop (j + 1) ++ bs) := by
    rw [hb, List.cons_append, List.drop_succ_cons, List.drop_append_of_le_length (by omega),
      List.drop_eq_getElem_cons hj, List.cons_append]
  rw [isBoundary, hdrop]
  simpa using hd

/-- Past a character the boundaries are those of what follows it. -/
lemma isBoundary_past (hi : c.utf8Size ≤ i) :
    isBoundary (String.utf8EncodeChar c ++ bs) i = isBoundary bs (i - c.utf8Size) := by
  have hdrop : (String.utf8EncodeChar c ++ bs).drop i = bs.drop (i - c.utf8Size) := by
    rw [List.drop_append, String.length_utf8EncodeChar,
      List.drop_eq_nil_of_le (by rw [String.length_utf8EncodeChar]; exact hi), List.nil_append]
  have hlen : i ≤ (String.utf8EncodeChar c ++ bs).length ↔ i - c.utf8Size ≤ bs.length := by
    rw [List.length_append, String.length_utf8EncodeChar]
    omega
  rw [isBoundary, isBoundary, hdrop]
  simp only [hlen]

end Boundary

/-- The boundaries in the bytes of a text are where its beginnings end. -/
lemma isBoundary_encode_iff {cs : List Char} {i : Nat} :
    isBoundary (Utf8.encode cs) i = true ↔ ∃ p, p <+: cs ∧ size p = i := by
  induction cs generalizing i with
  | nil => simp [isBoundary, eq_comm]
  | cons c cs ih =>
    rw [Utf8.encode_cons]
    -- at the start, inside or past the first character
    rcases Nat.eq_zero_or_pos i with rfl | h₀
    · exact iff_of_true (isBoundary_start c _) ⟨[], List.nil_prefix, rfl⟩
    rcases Nat.lt_or_ge i c.utf8Size with hi | hi
    · rw [isBoundary_inside c _ h₀ hi]
      simp only [Bool.false_eq_true, false_iff, not_exists, not_and]
      intro p hp hs
      cases p with
      | nil => rw [size_nil] at hs; omega
      | cons d p =>
        obtain ⟨rfl, -⟩ := List.cons_prefix_cons.1 hp
        rw [size_cons] at hs
        omega
    · rw [isBoundary_past c _ hi, ih]
      constructor
      · rintro ⟨p, hp, hs⟩
        exact ⟨c :: p, List.cons_prefix_cons.2 ⟨rfl, hp⟩, by rw [size_cons]; omega⟩
      · rintro ⟨p, hp, hs⟩
        cases p with
        | nil => rw [size_nil] at hs; omega
        | cons d p =>
          obtain ⟨rfl, hp'⟩ := List.cons_prefix_cons.1 hp
          rw [size_cons] at hs
          exact ⟨p, hp', by omega⟩

/-! ### The search for a boundary -/

/-- The search ends where the longest fitting beginning does. -/
lemma lastBoundary_encode {room : Nat} {cs p : List Char} (h : LongestFitting room cs p) :
    lastBoundary (Utf8.encode cs) room = size p := by
  induction room with
  | zero => exact (Nat.le_zero.1 h.size_le).symm
  | succ i ih =>
    rw [lastBoundary]
    split
    · rename_i hb
      obtain ⟨q, hq, hs⟩ := isBoundary_encode_iff.1 hb
      have hqp : q <+: p := h.longest q hq (Nat.le_of_eq hs)
      -- a beginning ends here that uses up all the room, so it is the longest one
      have hqle := size_mono hqp
      have hple := h.size_le
      omega
    · rename_i hb
      -- no beginning has exactly this size, so one byte less leaves the same room
      have hne : size p ≠ i + 1 := fun hs => hb (isBoundary_encode_iff.2 ⟨p, h.isPrefix, hs⟩)
      have hle := h.size_le
      exact ih ⟨h.isPrefix, by omega, fun q hq hs => h.longest q hq (by omega)⟩

/-- The search starts at the end of the text if that comes before the limit. -/
lemma LongestFitting.min_length {room : Nat} {cs p : List Char} (h : LongestFitting room cs p) :
    LongestFitting (min (Utf8.encode cs).length room) cs p := by
  have hs := size_mono h.isPrefix
  have hle := h.size_le
  refine ⟨h.isPrefix, ?_, fun q hq hs => h.longest q hq ?_⟩
  · rw [Utf8.length_encode]
    omega
  · omega

/-- Cutting the bytes of a name leaves the bytes of its longest fitting beginning. -/
lemma cut_encode (cs : List Char) :
    cut (Utf8.encode cs) = Utf8.encode (fitting nameRoom cs) := by
  have h := longestFitting_fitting nameRoom cs
  obtain ⟨r, hr⟩ := h.isPrefix
  have hcs : Utf8.encode cs = Utf8.encode (fitting nameRoom cs) ++ Utf8.encode r := by
    rw [← Utf8.encode_append, hr]
  rw [cut, lastBoundary_encode h.min_length, hcs, ← Utf8.length_encode]
  exact List.take_left

/-! ### The steps of the search -/

/-- The search with a limited number of steps.  From a place that is no boundary it goes one place
back; it fails where no step is left, and where there is no place to go back to. -/
def searchBack (bs : List UInt8) (steps i : Nat) : Option Nat :=
  if isBoundary bs i then some i
  else match steps, i with
    | steps + 1, i + 1 => searchBack bs steps i
    | _, _ => none

lemma lastBoundary_le (bs : List UInt8) (i : Nat) : lastBoundary bs i ≤ i := by
  induction i with
  | zero => exact Nat.le_refl 0
  | succ i ih =>
    rw [lastBoundary]
    split
    · exact Nat.le_refl _
    · exact Nat.le_succ_of_le ih

/-- The search takes as many steps as there are places between its start and the boundary. -/
lemma searchBack_eq_some {bs : List UInt8} {steps i : Nat}
    (hb : isBoundary bs (lastBoundary bs i) = true) (hsteps : i - lastBoundary bs i ≤ steps) :
    searchBack bs steps i = some (lastBoundary bs i) := by
  induction i generalizing steps with
  | zero =>
    rw [searchBack.eq_def]
    exact if_pos hb
  | succ i ih =>
    by_cases hi : isBoundary bs (i + 1) = true
    · have hlast : lastBoundary bs (i + 1) = i + 1 := if_pos hi
      rw [searchBack.eq_def, if_pos hi, hlast]
    · have hlast : lastBoundary bs (i + 1) = lastBoundary bs i := if_neg hi
      rw [hlast] at hb hsteps ⊢
      have hle := lastBoundary_le bs i
      obtain ⟨k, rfl⟩ : ∃ k, steps = k + 1 := ⟨steps - 1, by omega⟩
      rw [searchBack.eq_def, if_neg hi]
      exact ih hb (by omega)

/-- In a text the search meets a boundary after three steps at most. -/
lemma searchBack_encode (cs : List Char) (room : Nat) :
    let start := min (Utf8.encode cs).length room
    searchBack (Utf8.encode cs) 3 start = some (lastBoundary (Utf8.encode cs) start) := by
  intro start
  have h := longestFitting_fitting room cs
  have hlast := lastBoundary_encode h.min_length
  refine searchBack_eq_some ?_ ?_
  · rw [hlast]
    exact isBoundary_encode_iff.2 ⟨_, h.isPrefix, rfl⟩
  · have hstart : start = min (size cs) room := by rw [← Utf8.length_encode]
    rw [hlast, hstart]
    rcases h.eq_or_next with hall | ⟨c, rest, -, hnext⟩
    · rw [hall]
      omega
    · have hfour : c.utf8Size ≤ 4 := c.utf8Size_le_four
      omega

/-! ### What is written of a name -/

/-- A name is written as the marker and the beginning of the name that fits. -/
lemma encode_owner (s : String) :
    encode (owner s) = Utf8.bytesOf ownerMarker ++ Utf8.encode (fitting nameRoom s.toList) := by
  rw [encode, Utf8.bytesOf, Utf8.bytesOf, cut_encode]

/-- The reply that names an owner fits into a message. -/
lemma length_encode_owner (s : String) :
    1 ≤ (encode (owner s)).length ∧ (encode (owner s)).length ≤ messageLimit := by
  have hmarker : (Utf8.bytesOf ownerMarker).length = 10 := by decide
  have hfit : size (fitting nameRoom s.toList) ≤ 246 :=
    (longestFitting_fitting nameRoom s.toList).size_le
  have hlimit : messageLimit = 256 := rfl
  rw [encode_owner, List.length_append, Utf8.length_encode]
  omega

/-- **The wire form of an owner.**  The reply that names an owner has at most 256 bytes, starts with
the marker and is valid UTF-8.  After the marker comes the longest beginning of the name, in whole
characters, that has at most 246 bytes: it is all of the name, or the message has no room for the
next character, and then at most three bytes stay unused.  The search for the place to cut meets it
after three steps at most, and does not go back beyond the start. -/
theorem owner_wire_form (name : String) :
    let wire := encode (owner name)
    let bs := Utf8.bytesOf name
    let start := min bs.length nameRoom
    wire.length ≤ 256 ∧ wire.toByteArray.IsValidUTF8 ∧
    (∃ p, wire = Utf8.bytesOf "USER_INFO:" ++ Utf8.encode p ∧
      Utf8.decode? wire = some ("USER_INFO:".toList ++ p) ∧
      LongestFitting 246 name.toList p ∧
      (p = name.toList ∨ ∃ c rest, name.toList = p ++ c :: rest ∧
        256 < wire.length + c.utf8Size ∧ 253 ≤ wire.length)) ∧
    wire = Utf8.bytesOf "USER_INFO:" ++ bs.take (lastBoundary bs start) ∧
    searchBack bs 3 start = some (lastBoundary bs start) := by
  intro wire bs start
  have h : LongestFitting 246 name.toList (fitting nameRoom name.toList) :=
    longestFitting_fitting nameRoom name.toList
  have hwire : wire = Utf8.bytesOf ownerMarker ++ Utf8.encode (fitting nameRoom name.toList) :=
    encode_owner name
  have htext : wire = Utf8.encode (ownerMarker.toList ++ fitting nameRoom name.toList) := by
    rw [hwire, Utf8.encode_append, Utf8.bytesOf]
  have hlen : wire.length = 10 + size (fitting nameRoom name.toList) := by
    have hmarker : (Utf8.bytesOf ownerMarker).length = 10 := by decide
    rw [hwire, List.length_append, Utf8.length_encode, hmarker]
  refine ⟨(length_encode_owner name).2, ⟨_, congrArg List.toByteArray htext⟩, ⟨_, hwire, ?_, h, ?_⟩,
    rfl, searchBack_encode name.toList nameRoom⟩
  · rw [htext]
    exact Utf8.decode?_encode _
  · rcases h.eq_or_next with hall | ⟨c, rest, hcs, hnext⟩
    · exact .inl hall
    · have hfour : c.utf8Size ≤ 4 := c.utf8Size_le_four
      exact .inr ⟨c, rest, hcs, by omega, by omega⟩

end LaunchGuard.Reply
