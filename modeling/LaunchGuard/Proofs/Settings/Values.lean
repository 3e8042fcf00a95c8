/-
# What the values of settings give

The readers of values report what does not fit.  What they accept can be told without the reports: a
whole number in a range, a switch, or a policy.  A policy is given by three values, which stand in a
table under the names of its fields, or at the front of an array, and each of which is a whole
number.

A record is read from the entries of a table one after the other.  If no key comes twice, each field
ends up as what the value at its key gives, or as it was if there is no such key, and the order of
the entries does not matter.
-/
import Mathlib.Tactic.MkIffOfInductiveProp
import LaunchGuard.Proofs.Toml.WellFormed
import LaunchGuard.Settings.Schema

namespace LaunchGuard

open Toml

namespace Toml.Value

/-- The number that a value is, if it is a whole number. -/
def asInteger? : Value → Option Int
  | scalar _ (.integer n) => some n
  | _ => none

/-- The switch that a value is, if it is one. -/
def asFlag? : Value → Option Bool
  | scalar _ (.boolean b) => some b
  | _ => none

/-- The values of the three fields of a policy: those at their keys in a table, which may have more
keys, or the first three of an array. -/
def policyFields? : Value → Option (Value × Value × Value)
  | table _ _ es =>
    match es.lookup "max_attempts", es.lookup "timeout_ms", es.lookup "delay_ms" with
    | some n, some t, some d => some (n, t, d)
    | _, _, _ => none
  | array _ _ (n :: t :: d :: _) => some (n, t, d)
  | _ => none

/-- The numbers that a value gives for the three fields of a policy. -/
def policyNumbers? (v : Value) : Option (Int × Int × Int) := do
  let (a, b, c) ← v.policyFields?
  return (← a.asInteger?, ← b.asInteger?, ← c.asInteger?)

variable {v : Value}

lemma asInteger?_eq_some_iff {n : Int} :
    v.asInteger? = some n ↔ ∃ m, v = scalar m (.integer n) := by
  constructor
  · intro h
    rw [asInteger?.eq_def] at h
    split at h
    · next m k =>
      cases h
      exact ⟨m, rfl⟩
    · cases h
  · rintro ⟨m, rfl⟩
    rfl

lemma policyFields?_table {m : Nat} {o : Origin} {es : Entries} {a b c : Value} :
    (table m o es).policyFields? = some (a, b, c) ↔
      es.lookup "max_attempts" = some a ∧ es.lookup "timeout_ms" = some b ∧
        es.lookup "delay_ms" = some c := by
  rw [policyFields?]
  cases es.lookup "max_attempts" <;> cases es.lookup "timeout_ms" <;>
    cases es.lookup "delay_ms" <;> simp

lemma policyFields?_array {m : Nat} {o : Origin} {items : List Value} {a b c : Value} :
    (array m o items).policyFields? = some (a, b, c) ↔ ∃ rest, items = a :: b :: c :: rest := by
  match items with
  | [] => simp [policyFields?]
  | [x] => simp [policyFields?]
  | [x, y] => simp [policyFields?]
  | x :: y :: z :: rest => simp [policyFields?]

lemma policyNumbers?_eq_some_iff {n t d : Int} :
    v.policyNumbers? = some (n, t, d) ↔
      ∃ a b c, v.policyFields? = some (a, b, c) ∧ a.asInteger? = some n ∧
        b.asInteger? = some t ∧ c.asInteger? = some d := by
  constructor
  · intro h
    obtain ⟨⟨a, b, c⟩, hfields, h⟩ := Option.bind_eq_some_iff.1 h
    obtain ⟨_, hn, h⟩ := Option.bind_eq_some_iff.1 h
    obtain ⟨_, ht, h⟩ := Option.bind_eq_some_iff.1 h
    obtain ⟨_, hd, h⟩ := Option.bind_eq_some_iff.1 h
    cases h
    exact ⟨a, b, c, hfields, hn, ht, hd⟩
  · rintro ⟨a, b, c, hfields, hn, ht, hd⟩
    simp [policyNumbers?, hfields, hn, ht, hd]

end Toml.Value

namespace Settings

variable {v : Value}

/-! ### Numbers and switches -/

lemma readWhole_eq_ok_iff {limit n : Nat} {wanted : Wanted} :
    readWhole limit wanted v = .ok n ↔ v.asInteger? = some (n : Int) ∧ n ≤ limit := by
  constructor
  · intro h
    rw [readWhole.eq_def] at h
    split at h
    · next m k =>
      split at h
      · next hk =>
        cases h
        rw [Value.asInteger?]
        exact ⟨congrArg some (Int.toNat_of_nonneg hk.1).symm, by omega⟩
      · cases h
    · cases h
  · rintro ⟨hv, hn⟩
    obtain ⟨m, rfl⟩ := Value.asInteger?_eq_some_iff.1 hv
    rw [readWhole, if_pos ⟨Int.natCast_nonneg n, Int.ofNat_le.2 hn⟩]
    rfl

/-- A reader of numbers up to a limit accepts exactly the whole numbers of its type. -/
lemma readWhole_map_eq_ok_iff {α : Type} {ofNat : Nat → α} {toNat : α → Nat} {limit : Nat}
    (hofNat : ∀ n, n ≤ limit → toNat (ofNat n) = n) (htoNat : ∀ a, ofNat (toNat a) = a)
    (hlimit : ∀ a, toNat a ≤ limit) {wanted : Wanted} {a : α} :
    (readWhole limit wanted v).map ofNat = .ok a ↔ v.asInteger? = some (toNat a : Int) := by
  rw [map_eq_ok_iff]
  constructor
  · rintro ⟨n, hn, rfl⟩
    obtain ⟨hv, hle⟩ := readWhole_eq_ok_iff.1 hn
    rw [hofNat n hle, hv]
  · intro hv
    exact ⟨toNat a, readWhole_eq_ok_iff.2 ⟨hv, hlimit a⟩, htoNat a⟩

lemma readPort_eq_ok_iff {p : UInt16} :
    readPort v = .ok p ↔ v.asInteger? = some (p.toNat : Int) :=
  readWhole_map_eq_ok_iff (fun _ h => UInt16.toNat_ofNat_of_lt' (Nat.lt_succ_of_le h))
    (fun _ => UInt16.ofNat_toNat) fun p => Nat.le_sub_one_of_lt p.toNat_lt

lemma readCount_eq_ok_iff {n : UInt32} :
    readCount v = .ok n ↔ v.asInteger? = some (n.toNat : Int) :=
  readWhole_map_eq_ok_iff (fun _ h => UInt32.toNat_ofNat_of_lt' (Nat.lt_succ_of_le h))
    (fun _ => UInt32.ofNat_toNat) fun n => Nat.le_sub_one_of_lt n.toNat_lt

lemma readTime_eq_ok_iff {t : UInt64} :
    readTime v = .ok t ↔ v.asInteger? = some (t.toNat : Int) :=
  readWhole_map_eq_ok_iff (fun _ h => UInt64.toNat_ofNat_of_lt' (Nat.lt_succ_of_le h))
    (fun _ => UInt64.ofNat_toNat) fun t => Nat.le_sub_one_of_lt t.toNat_lt

lemma readFlag_eq_ok_iff {b : Bool} : readFlag v = .ok b ↔ v.asFlag? = some b := by
  rw [readFlag.eq_def]
  split
  · simp [Value.asFlag?]
  · next hnot =>
    constructor
    · intro h
      cases h
    · intro h
      rw [Value.asFlag?.eq_def] at h
      split at h
      · next m b' => exact absurd rfl (hnot m b')
      · cases h

end Settings

/-! ### Fields of a record -/

/-- What a field is after the entries of a table: what the value at its key gives, or what it was
before if there is no value. -/
def Given {α : Type} (gives : Value → α → Prop) (old new : α) : Option Value → Prop
  | none => old = new
  | some v => gives v new

section Given

variable {α : Type} {gives : Value → α → Prop} {old new : α} {k key : String} {v : Value}

@[simp]
lemma given_some : Given gives old new (some v) ↔ gives v new := Iff.rfl

@[simp]
lemma given_none : Given gives old new none ↔ old = new := Iff.rfl

lemma given_of_ne (h : key ≠ k) : Given gives old new (List.lookup key [(k, v)]) ↔ old = new := by
  rw [lookup_cons_of_ne h, List.lookup_nil, given_none]

/-- Where a key comes once, its field may be followed entry by entry. -/
lemma given_cons_iff {es : Entries} (hfree : es.lookup k = none) :
    Given gives old new (List.lookup key ((k, v) :: es)) ↔
      ∃ mid, Given gives old mid (List.lookup key [(k, v)]) ∧
        Given gives mid new (es.lookup key) := by
  by_cases hkey : key = k
  · subst hkey
    simp_rw [List.lookup_cons_self, hfree, given_some, given_none, exists_eq_right]
  · simp_rw [given_of_ne hkey]
    rw [lookup_cons_of_ne hkey, exists_eq_left']

lemma exists_given_iff {found : Option Value} :
    (∃ new, Given gives old new found) ↔ ∀ v, found = some v → ∃ a, gives v a := by
  cases found with
  | none => simp
  | some v => simp

lemma given_congr {gives' : Value → α → Prop} {found : Option Value}
    (h : ∀ v, found = some v → ∀ a, gives v a ↔ gives' v a) :
    Given gives old new found ↔ Given gives' old new found := by
  cases found with
  | none => exact Iff.rfl
  | some v => exact h v rfl new

/-- A field only asks for the meaning of its value. -/
lemma given_iff_of_map_eq {β : Type} {meaning : Value → β} {found found' : Option Value}
    (hfound : found.map meaning = found'.map meaning)
    (h : ∀ v w, meaning v = meaning w → ∀ a, gives v a ↔ gives w a) :
    Given gives old new found ↔ Given gives old new found' := by
  match found, found', hfound with
  | none, none, _ => exact Iff.rfl
  | some v, some w, hfound => exact h v w (Option.some.inj hfound) new

end Given

/-- A loop over entries with distinct keys comes to what its rounds come to one after the other. -/
lemma foldlM_entries_eq_ok_iff {ε σ : Type} {step : σ → String × Value → Except ε σ}
    {changed : σ → Entries → σ → Prop} (hnil : ∀ s s', changed s [] s' ↔ s' = s)
    (hstep : ∀ s e s', step s e = .ok s' ↔ changed s [e] s')
    (hcons : ∀ s k v es s', List.lookup k es = none →
      (changed s ((k, v) :: es) s' ↔ ∃ mid, changed s [(k, v)] mid ∧ changed mid es s'))
    {es : Entries} (hdistinct : (es.map Prod.fst).Nodup) (s s' : σ) :
    es.foldlM step s = .ok s' ↔ changed s es s' := by
  induction es generalizing s with
  | nil =>
    rw [hnil, List.foldlM_nil]
    exact ⟨fun h => (Except.ok.inj h).symm, fun h => congrArg Except.ok h.symm⟩
  | cons e es ih =>
    obtain ⟨k, v⟩ := e
    obtain ⟨hk, hrest⟩ := List.nodup_cons.1 hdistinct
    -- the key of the first entry does not come again, so no later round undoes the first
    have hfree : es.lookup k = none := by
      rw [List.lookup_eq_none_iff]
      intro e he
      rw [bne_iff_ne]
      intro heq
      exact hk (List.mem_map.2 ⟨e, he, heq.symm⟩)
    rw [List.foldlM_cons, bind_eq_ok_iff, hcons s k v es s' hfree]
    refine exists_congr fun mid => ?_
    rw [hstep, ih hrest]

/-! ### Policies -/

namespace Settings

/-- The entries of a table change the fields of a draft at whose keys they have a value. -/
@[mk_iff]
structure PolicyDraft.Changed (d : PolicyDraft) (es : Entries) (d' : PolicyDraft) : Prop where
  maxAttempts : Given (fun v n => (readCount v).map some = .ok n) d.maxAttempts d'.maxAttempts
    (es.lookup "max_attempts")
  timeout : Given (fun v t => (readTime v).map some = .ok t) d.timeout d'.timeout
    (es.lookup "timeout_ms")
  delay : Given (fun v t => (readTime v).map some = .ok t) d.delay d'.delay
    (es.lookup "delay_ms")

namespace PolicyDraft

lemma add_eq_ok_iff {d d' : PolicyDraft} {e : String × Value} :
    d.add e = .ok d' ↔ d.Changed [e] d' := by
  obtain ⟨k, v⟩ := e
  obtain ⟨n, t, q⟩ := d
  obtain ⟨n', t', q'⟩ := d'
  rw [add, changed_iff]
  -- the entry reads the field of its own key and leaves the others as they are
  by_cases hn : k = "max_attempts"
  · subst hn
    cases n' <;> simp [given_of_ne, bind_eq_ok_iff, map_eq_ok_iff, pure, Except.pure, and_left_comm]
  by_cases ht : k = "timeout_ms"
  · subst ht
    cases t' <;> simp [given_of_ne, bind_eq_ok_iff, map_eq_ok_iff, pure, Except.pure, and_left_comm]
  by_cases hq : k = "delay_ms"
  · subst hq
    cases q' <;> simp [given_of_ne, bind_eq_ok_iff, map_eq_ok_iff, pure, Except.pure, and_left_comm]
  · simp [given_of_ne, hn, ht, hq, Ne.symm, pure, Except.pure]

lemma changed_nil_iff {d d' : PolicyDraft} : d.Changed [] d' ↔ d' = d := by
  obtain ⟨n, t, q⟩ := d
  obtain ⟨n', t', q'⟩ := d'
  simp [changed_iff, eq_comm]

lemma changed_cons_iff {d d' : PolicyDraft} {k : String} {v : Value} {es : Entries}
    (hfree : es.lookup k = none) :
    d.Changed ((k, v) :: es) d' ↔ ∃ c, d.Changed [(k, v)] c ∧ c.Changed es d' := by
  simp_rw [changed_iff, given_cons_iff hfree]
  constructor
  · rintro ⟨⟨n, hn, hn'⟩, ⟨t, ht, ht'⟩, q, hq, hq'⟩
    exact ⟨⟨n, t, q⟩, ⟨hn, ht, hq⟩, hn', ht', hq'⟩
  · rintro ⟨c, ⟨hn, ht, hq⟩, hn', ht', hq'⟩
    exact ⟨⟨c.maxAttempts, hn, hn'⟩, ⟨c.timeout, ht, ht'⟩, c.delay, hq, hq'⟩

lemma run_eq_ok_iff {es : Entries} (hdistinct : (es.map Prod.fst).Nodup) {d d' : PolicyDraft} :
    es.foldlM add d = .ok d' ↔ d.Changed es d' :=
  foldlM_entries_eq_ok_iff (fun _ _ => changed_nil_iff) (fun _ _ _ => add_eq_ok_iff)
    (fun _ _ _ _ _ => changed_cons_iff) hdistinct d d'

lemma finish_eq_ok_iff {d : PolicyDraft} {m : Nat} {p : RetryPolicy} :
    d.finish m = .ok p ↔ d = ⟨some p.maxAttempts, some p.timeout, some p.delay⟩ := by
  obtain ⟨n, t, q⟩ := d
  obtain ⟨n', t', q'⟩ := p
  cases n <;> cases t <;> cases q <;> simp [finish]

/-- The entries of a table fill a draft if there is a value for each field of the policy. -/
lemma changed_full_iff {es : Entries} {p : RetryPolicy} :
    Changed {} es ⟨some p.maxAttempts, some p.timeout, some p.delay⟩ ↔
      ∃ a b c, (es.lookup "max_attempts" = some a ∧ es.lookup "timeout_ms" = some b ∧
          es.lookup "delay_ms" = some c) ∧
        readCount a = .ok p.maxAttempts ∧ readTime b = .ok p.timeout ∧
        readTime c = .ok p.delay := by
  rw [changed_iff]
  cases es.lookup "max_attempts" <;> cases es.lookup "timeout_ms" <;>
    cases es.lookup "delay_ms" <;> simp [map_eq_ok_iff, and_assoc]

end PolicyDraft

/-- An array is a policy if its first three items are the fields of the policy. -/
lemma readItems_eq_ok_iff {m : Nat} {items : List Value} {p : RetryPolicy} :
    readItems m items = .ok p ↔
      ∃ a b c, (∃ rest, items = a :: b :: c :: rest) ∧
        readCount a = .ok p.maxAttempts ∧ readTime b = .ok p.timeout ∧
        readTime c = .ok p.delay := by
  obtain ⟨n, t, q⟩ := p
  match items with
  | [] => simp [readItems]
  | [x] => simp [readItems, bind_eq_ok_iff]
  | [x, y] => simp [readItems, bind_eq_ok_iff]
  | x :: y :: z :: rest =>
    simp [readItems, bind_eq_ok_iff, pure, Except.pure, and_assoc, and_left_comm]

/-- **What a policy is.**  A value is read as a policy exactly if it gives the three numbers of the
policy, in whatever form. -/
lemma readPolicy_eq_ok_iff (hv : v.WellFormed) {p : RetryPolicy} :
    readPolicy v = .ok p ↔
      v.policyNumbers? =
        some ((p.maxAttempts.toNat : Int), (p.timeout.toNat : Int), (p.delay.toNat : Int)) := by
  rw [Value.policyNumbers?_eq_some_iff]
  simp_rw [← readCount_eq_ok_iff, ← readTime_eq_ok_iff]
  cases v with
  | table m o es =>
    rw [readPolicy, bind_eq_ok_iff]
    simp_rw [PolicyDraft.finish_eq_ok_iff, PolicyDraft.run_eq_ok_iff hv.entries.distinct,
      exists_eq_right, PolicyDraft.changed_full_iff, Value.policyFields?_table]
  | array m o items =>
    rw [readPolicy, readItems_eq_ok_iff]
    simp_rw [Value.policyFields?_array]
  | scalar m x =>
    -- a date or time counts as a table, one without any of the fields
    cases x <;> simp [readPolicy, Value.policyFields?, PolicyDraft.finish]

end Settings

end LaunchGuard
