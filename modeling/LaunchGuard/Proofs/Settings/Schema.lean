/-
# The schema of the settings

The settings that a document gives are told by the values at five keys.  Each field is what the
value at its key gives, or its default if there is no such key; nothing else of the document
matters, be it the order of its keys, the keys that mean nothing, or the form of its policies.
-/
import Mathlib.Algebra.Group.Nat.Defs
import LaunchGuard.Proofs.Settings.Values

namespace LaunchGuard

open Toml

/-! ### What the schema asks of a value -/

namespace Toml.Value

/-- The value is a whole number that is not above the limit. -/
def IsWholeUpTo (limit : Nat) (v : Value) : Prop :=
  ∃ n : Nat, v.asInteger? = some (n : Int) ∧ n ≤ limit

/-- The three fields of a policy are there, and in range. -/
def IsPolicy (v : Value) : Prop :=
  ∃ a b c, v.policyFields? = some (a, b, c) ∧ a.IsWholeUpTo (2 ^ 32 - 1) ∧
    b.IsWholeUpTo (2 ^ 63 - 1) ∧ c.IsWholeUpTo (2 ^ 63 - 1)

/-- What a value means to settings: the number, the switch and the policy that it is, if it is any
of these. -/
structure Meaning where
  number : Option Int
  flag : Option Bool
  policy : Option (Int × Int × Int)
deriving DecidableEq

/-- The meaning of a value. -/
def meaning (v : Value) : Meaning := ⟨v.asInteger?, v.asFlag?, v.policyNumbers?⟩

/-- Policies with the same numbers mean the same, be they tables or arrays. -/
lemma meaning_eq_of_policyNumbers? {v w : Value} {numbers : Int × Int × Int}
    (hv : v.policyNumbers? = some numbers) (hw : w.policyNumbers? = some numbers) :
    v.meaning = w.meaning := by
  have hpolicy : ∀ {u : Value}, u.policyNumbers? = some numbers →
      u.meaning = ⟨none, none, some numbers⟩ := by
    intro u hu
    obtain ⟨a, b, c, hfields, -⟩ := policyNumbers?_eq_some_iff.1 hu
    cases u with
    | scalar m x => cases hfields
    | array m o items => exact congrArg (Meaning.mk none none) hu
    | table m o es => exact congrArg (Meaning.mk none none) hu
  rw [hpolicy hv, hpolicy hw]

/-- No whole number of a document is above the longest time. -/
lemma WellFormed.le_of_asInteger? {v : Value} (hv : v.WellFormed) {n : Nat}
    (h : v.asInteger? = some (n : Int)) : n ≤ 2 ^ 63 - 1 := by
  obtain ⟨m, rfl⟩ := asInteger?_eq_some_iff.1 h
  cases hv with
  | scalar hrange =>
    have hn : inRange n = true := hrange n rfl
    simp only [inRange, Bool.and_eq_true, decide_eq_true_eq] at hn
    omega

/-- The fields of a well-formed policy are well-formed. -/
lemma WellFormed.policyFields? {v a b c : Value} (hv : v.WellFormed)
    (h : v.policyFields? = some (a, b, c)) : a.WellFormed ∧ b.WellFormed ∧ c.WellFormed := by
  cases v with
  | scalar m x => cases h
  | array m o items =>
    obtain ⟨rest, rfl⟩ := policyFields?_array.1 h
    have hitems := hv.items
    exact ⟨hitems a (by simp), hitems b (by simp), hitems c (by simp)⟩
  | table m o es =>
    obtain ⟨ha, hb, hc⟩ := policyFields?_table.1 h
    have hes := hv.entries
    exact ⟨hes.lookup ha, hes.lookup hb, hes.lookup hc⟩

end Toml.Value

namespace Settings

/-- The names of the settings. -/
def names : List String :=
  ["port", "single_instance_enabled", "log_to_file", "notify_retry", "query_retry"]

/-- What the values at the names of the settings mean. -/
def meanings (es : Entries) : List (Option Value.Meaning) :=
  names.map fun name => (es.lookup name).map Value.meaning

/-- Every value at the name of a setting is one that the setting can take. -/
structure Admissible (es : Entries) : Prop where
  port : ∀ v, es.lookup "port" = some v → v.IsWholeUpTo 65535
  singleInstance : ∀ v, es.lookup "single_instance_enabled" = some v → v.asFlag?.isSome
  logToFile : ∀ v, es.lookup "log_to_file" = some v → v.asFlag?.isSome
  notifyRetry : ∀ v, es.lookup "notify_retry" = some v → v.IsPolicy
  queryRetry : ∀ v, es.lookup "query_retry" = some v → v.IsPolicy

/-- The policy is the one of the three numbers that a value gives. -/
def IsPolicyOf (v : Value) (p : RetryPolicy) : Prop :=
  v.policyNumbers? =
    some ((p.maxAttempts.toNat : Int), (p.timeout.toNat : Int), (p.delay.toNat : Int))

/-- Each setting is what the value at its name says, or its default. -/
@[mk_iff]
structure GivenBy (s : Settings) (es : Entries) : Prop where
  port : Given (fun v p => v.asInteger? = some (p.toNat : Int)) 45931 s.port (es.lookup "port")
  singleInstance : Given (fun v b => v.asFlag? = some b) true s.singleInstance
    (es.lookup "single_instance_enabled")
  logToFile : Given (fun v b => v.asFlag? = some b) true s.logToFile (es.lookup "log_to_file")
  notifyRetry : Given IsPolicyOf ⟨5, 500, 200⟩ s.notifyRetry (es.lookup "notify_retry")
  queryRetry : Given IsPolicyOf ⟨3, 300, 100⟩ s.queryRetry (es.lookup "query_retry")

/-! ### Entry by entry -/

/-- The entries of a table change the settings at whose names they have a value. -/
@[mk_iff]
structure Changed (s : Settings) (es : Entries) (s' : Settings) : Prop where
  port : Given (readPort · = .ok ·) s.port s'.port (es.lookup "port")
  singleInstance : Given (readFlag · = .ok ·) s.singleInstance s'.singleInstance
    (es.lookup "single_instance_enabled")
  logToFile : Given (readFlag · = .ok ·) s.logToFile s'.logToFile (es.lookup "log_to_file")
  notifyRetry : Given (readPolicy · = .ok ·) s.notifyRetry s'.notifyRetry
    (es.lookup "notify_retry")
  queryRetry : Given (readPolicy · = .ok ·) s.queryRetry s'.queryRetry (es.lookup "query_retry")

lemma add_eq_ok_iff {s s' : Settings} {e : String × Value} :
    s.add e = .ok s' ↔ s.Changed [e] s' := by
  obtain ⟨k, v⟩ := e
  obtain ⟨p, b, l, n, q⟩ := s
  obtain ⟨p', b', l', n', q'⟩ := s'
  rw [add, changed_iff]
  -- the entry reads the setting of its own name and leaves the others as they are
  by_cases hp : k = "port"
  · subst hp
    simp [given_of_ne, bind_eq_ok_iff, pure, Except.pure, and_left_comm]
  by_cases hb : k = "single_instance_enabled"
  · subst hb
    simp [given_of_ne, bind_eq_ok_iff, pure, Except.pure, and_left_comm]
  by_cases hl : k = "log_to_file"
  · subst hl
    simp [given_of_ne, bind_eq_ok_iff, pure, Except.pure, and_left_comm]
  by_cases hn : k = "notify_retry"
  · subst hn
    simp [given_of_ne, bind_eq_ok_iff, pure, Except.pure, and_left_comm]
  by_cases hq : k = "query_retry"
  · subst hq
    simp [given_of_ne, bind_eq_ok_iff, pure, Except.pure, and_left_comm]
  · simp [given_of_ne, hp, hb, hl, hn, hq, Ne.symm, pure, Except.pure]

lemma changed_nil_iff {s s' : Settings} : s.Changed [] s' ↔ s' = s := by
  obtain ⟨p, b, l, n, q⟩ := s
  obtain ⟨p', b', l', n', q'⟩ := s'
  simp [changed_iff, eq_comm]

lemma changed_cons_iff {s s' : Settings} {k : String} {v : Value} {es : Entries}
    (hfree : es.lookup k = none) :
    s.Changed ((k, v) :: es) s' ↔ ∃ c, s.Changed [(k, v)] c ∧ c.Changed es s' := by
  simp_rw [changed_iff, given_cons_iff hfree]
  constructor
  · rintro ⟨⟨p, hp, hp'⟩, ⟨b, hb, hb'⟩, ⟨l, hl, hl'⟩, ⟨n, hn, hn'⟩, q, hq, hq'⟩
    exact ⟨⟨p, b, l, n, q⟩, ⟨hp, hb, hl, hn, hq⟩, hp', hb', hl', hn', hq'⟩
  · rintro ⟨c, ⟨hp, hb, hl, hn, hq⟩, hp', hb', hl', hn', hq'⟩
    exact ⟨⟨c.port, hp, hp'⟩, ⟨c.singleInstance, hb, hb'⟩, ⟨c.logToFile, hl, hl'⟩,
      ⟨c.notifyRetry, hn, hn'⟩, c.queryRetry, hq, hq'⟩

/-- The entries of a document are read as the settings that they give. -/
lemma ofEntries_eq_ok_iff {es : Entries} (hes : es.WellFormed) {s : Settings} :
    ofEntries es = .ok s ↔ s.GivenBy es := by
  have hrun : ofEntries es = .ok s ↔ Changed {} es s :=
    foldlM_entries_eq_ok_iff (fun _ _ => changed_nil_iff) (fun _ _ _ => add_eq_ok_iff)
      (fun _ _ _ _ _ => changed_cons_iff) hes.distinct {} s
  have hpolicy : ∀ {key : String} {old new : RetryPolicy},
      Given (readPolicy · = .ok ·) old new (es.lookup key) ↔
        Given IsPolicyOf old new (es.lookup key) := by
    intro key old new
    exact given_congr fun v hv p => readPolicy_eq_ok_iff (hes.lookup hv)
  rw [hrun, changed_iff, givenBy_iff, given_congr fun v _ p => readPort_eq_ok_iff,
    given_congr fun v _ b => readFlag_eq_ok_iff, given_congr fun v _ b => readFlag_eq_ok_iff,
    hpolicy, hpolicy]
  rfl

lemma read_eq_ok_iff {text : String} {es : Entries} (hdoc : Toml.read text.toList = .ok es)
    {s : Settings} : Settings.read text = .ok s ↔ s.GivenBy es := by
  rw [← ofEntries_eq_ok_iff (wellFormed_read hdoc), Settings.read, hdoc]
  dsimp only
  cases ofEntries es <;> simp

/-- Settings are read from documents only. -/
lemma exists_givenBy_of_read {text : String} {s : Settings} (h : Settings.read text = .ok s) :
    ∃ es, Toml.read text.toList = .ok es ∧ s.GivenBy es := by
  cases hdoc : Toml.read text.toList with
  | error mark =>
    rw [Settings.read, hdoc] at h
    cases h
  | ok es => exact ⟨es, rfl, (read_eq_ok_iff hdoc).1 h⟩

/-- A value is a policy if its fields are in range. -/
lemma isPolicy_iff {v : Value} (hv : v.WellFormed) : v.IsPolicy ↔ ∃ p, IsPolicyOf v p := by
  constructor
  · rintro ⟨a, b, c, hfields, ⟨n, ha, hn⟩, ⟨t, hb, ht⟩, ⟨q, hc, hq⟩⟩
    refine ⟨⟨.ofNat n, .ofNat t, .ofNat q⟩, Value.policyNumbers?_eq_some_iff.2 ?_⟩
    refine ⟨a, b, c, hfields, ?_⟩
    rw [UInt32.toNat_ofNat_of_lt' (Nat.lt_of_le_of_lt hn (by decide)),
      UInt64.toNat_ofNat_of_lt' (Nat.lt_of_le_of_lt ht (by decide)),
      UInt64.toNat_ofNat_of_lt' (Nat.lt_of_le_of_lt hq (by decide))]
    exact ⟨ha, hb, hc⟩
  · rintro ⟨p, hp⟩
    obtain ⟨a, b, c, hfields, ha, hb, hc⟩ := Value.policyNumbers?_eq_some_iff.1 hp
    -- times have one bit more than integers of a document, so those bound them
    obtain ⟨-, hb', hc'⟩ := hv.policyFields? hfields
    exact ⟨a, b, c, hfields, ⟨_, ha, Nat.le_sub_one_of_lt p.maxAttempts.toNat_lt⟩,
      ⟨_, hb, hb'.le_of_asInteger? hb⟩, ⟨_, hc, hc'.le_of_asInteger? hc⟩⟩

/-- The ports are the whole numbers up to the last one. -/
lemma isPort_iff {v : Value} :
    v.IsWholeUpTo 65535 ↔ ∃ p : UInt16, v.asInteger? = some (p.toNat : Int) := by
  constructor
  · rintro ⟨n, hv, hn⟩
    refine ⟨.ofNat n, ?_⟩
    rw [UInt16.toNat_ofNat_of_lt' (Nat.lt_succ_of_le hn), hv]
  · rintro ⟨p, hv⟩
    exact ⟨p.toNat, hv, Nat.le_sub_one_of_lt p.toNat_lt⟩

/-- A document gives settings if all its values are admissible. -/
lemma exists_givenBy_iff {es : Entries} (hes : es.WellFormed) :
    (∃ s : Settings, s.GivenBy es) ↔ Admissible es := by
  constructor
  · rintro ⟨s, hs⟩
    exact
      { port := fun v hv => isPort_iff.2 (exists_given_iff.1 ⟨_, hs.port⟩ v hv)
        singleInstance := fun v hv =>
          Option.isSome_iff_exists.2 (exists_given_iff.1 ⟨_, hs.singleInstance⟩ v hv)
        logToFile := fun v hv =>
          Option.isSome_iff_exists.2 (exists_given_iff.1 ⟨_, hs.logToFile⟩ v hv)
        notifyRetry := fun v hv =>
          (isPolicy_iff (hes.lookup hv)).2 (exists_given_iff.1 ⟨_, hs.notifyRetry⟩ v hv)
        queryRetry := fun v hv =>
          (isPolicy_iff (hes.lookup hv)).2 (exists_given_iff.1 ⟨_, hs.queryRetry⟩ v hv) }
  · intro h
    obtain ⟨p, hp⟩ := exists_given_iff.2 fun v hv => isPort_iff.1 (h.port v hv)
    obtain ⟨b, hb⟩ := exists_given_iff.2 fun v hv =>
      Option.isSome_iff_exists.1 (h.singleInstance v hv)
    obtain ⟨l, hl⟩ := exists_given_iff.2 fun v hv => Option.isSome_iff_exists.1 (h.logToFile v hv)
    obtain ⟨n, hn⟩ := exists_given_iff.2 fun v hv =>
      (isPolicy_iff (hes.lookup hv)).1 (h.notifyRetry v hv)
    obtain ⟨q, hq⟩ := exists_given_iff.2 fun v hv =>
      (isPolicy_iff (hes.lookup hv)).1 (h.queryRetry v hv)
    exact ⟨⟨p, b, l, n, q⟩, hp, hb, hl, hn, hq⟩

/-- Neither the order of the entries nor other keys matter to what a document means. -/
lemma meanings_eq_of_perm {es es' : Entries} (hes : (es.map Prod.fst).Nodup)
    (h : (es.filter (·.1 ∈ names)).Perm (es'.filter (·.1 ∈ names))) :
    meanings es = meanings es' := by
  have hnamed : ∀ (fs : Entries) {name : String}, name ∈ names →
      fs.lookup name = (fs.filter (·.1 ∈ names)).lookup name := by
    intro fs name hname
    rw [lookup_filter fs (· ∈ names), if_pos (decide_eq_true hname)]
  have hdistinct : ((es.filter (·.1 ∈ names)).map Prod.fst).Nodup :=
    hes.sublist (List.filter_sublist.map _)
  have hdistinct' : ((es'.filter (·.1 ∈ names)).map Prod.fst).Nodup :=
    (h.map _).nodup_iff.1 hdistinct
  -- with distinct keys, to be found is to be an entry
  refine List.map_inj_left.2 fun name hname => ?_
  rw [hnamed es hname, hnamed es' hname]
  refine congrArg _ (Option.ext fun v => ?_)
  rw [lookup_eq_some_iff_mem hdistinct, lookup_eq_some_iff_mem hdistinct', h.mem_iff]

/-- Documents that mean the same give the same settings. -/
lemma givenBy_iff_of_meanings_eq {es es' : Entries} (h : meanings es = meanings es')
    {s : Settings} : s.GivenBy es ↔ s.GivenBy es' := by
  have hat : ∀ name ∈ names,
      (es.lookup name).map Value.meaning = (es'.lookup name).map Value.meaning :=
    List.map_inj_left.1 h
  have hnumber : ∀ v w : Value, v.meaning = w.meaning → v.asInteger? = w.asInteger? :=
    fun _ _ hvw => congrArg (·.number) hvw
  have hflag : ∀ v w : Value, v.meaning = w.meaning → v.asFlag? = w.asFlag? :=
    fun _ _ hvw => congrArg (·.flag) hvw
  have hpolicy : ∀ v w : Value, v.meaning = w.meaning → v.policyNumbers? = w.policyNumbers? :=
    fun _ _ hvw => congrArg (·.policy) hvw
  rw [givenBy_iff, givenBy_iff]
  refine and_congr ?_ (and_congr ?_ (and_congr ?_ (and_congr ?_ ?_)))
  · refine given_iff_of_map_eq (hat _ (by decide)) fun v w hvw p => ?_
    rw [hnumber v w hvw]
  · refine given_iff_of_map_eq (hat _ (by decide)) fun v w hvw b => ?_
    rw [hflag v w hvw]
  · refine given_iff_of_map_eq (hat _ (by decide)) fun v w hvw b => ?_
    rw [hflag v w hvw]
  · refine given_iff_of_map_eq (hat _ (by decide)) fun v w hvw p => ?_
    rw [IsPolicyOf, IsPolicyOf, hpolicy v w hvw]
  · refine given_iff_of_map_eq (hat _ (by decide)) fun v w hvw p => ?_
    rw [IsPolicyOf, IsPolicyOf, hpolicy v w hvw]

/-- **The schema of the settings.**  No key of a document comes twice.  Settings can be read from a
document exactly if all its values at the names of settings are admissible, and they are then what
the document gives: the numbers, switches and policies that it holds, and the defaults for what it
does not.  Documents that mean the same at the names of the settings are read alike.  They do if
their entries at these names are the same in whatever order, whatever other keys they have; and a
table and an array mean the same if they are policies with the same numbers. -/
theorem read_follows_schema {text : String} {es : Entries}
    (hdoc : Toml.read text.toList = .ok es) :
    (es.map Prod.fst).Nodup ∧
    ((∃ s, Settings.read text = .ok s) ↔ Admissible es) ∧
    (∀ s, Settings.read text = .ok s ↔ s.GivenBy es) ∧
    (∀ text' es', Toml.read text'.toList = .ok es' → meanings es = meanings es' →
      ∀ s, Settings.read text = .ok s ↔ Settings.read text' = .ok s) ∧
    (∀ es', (es.filter (·.1 ∈ names)).Perm (es'.filter (·.1 ∈ names)) →
      meanings es = meanings es') ∧
    ∀ (v w : Value) (numbers : Int × Int × Int), v.policyNumbers? = some numbers →
      w.policyNumbers? = some numbers → v.meaning = w.meaning := by
  have hes : es.WellFormed := wellFormed_read hdoc
  refine ⟨hes.distinct, ?_, fun s => read_eq_ok_iff hdoc, ?_,
    fun es' hperm => meanings_eq_of_perm hes.distinct hperm,
    fun v w numbers hv hw => Value.meaning_eq_of_policyNumbers? hv hw⟩
  · rw [← exists_givenBy_iff hes]
    exact exists_congr fun s => read_eq_ok_iff hdoc
  · intro text' es' hdoc' hsame s
    rw [read_eq_ok_iff hdoc, read_eq_ok_iff hdoc']
    exact givenBy_iff_of_meanings_eq hsame

/-- A policy may be an array or a table, between keys that mean nothing. -/
theorem read_follows_schema_in_either_form :
    let text := "query_retry = [9, 250, 50, true]\nretries = 7\nport = 5000\n"
    let text' := "port = 5000\n[query_retry]\ndelay_ms = 50\nmax_attempts = 9\ntimeout_ms = 250\n"
    ∃ es es', Toml.read text.toList = .ok es ∧ Toml.read text'.toList = .ok es' ∧ Admissible es ∧
      ∀ s, Settings.read text = .ok s ↔ Settings.read text' = .ok s := by
  intro text text'
  let both : List (Option Value.Meaning) :=
    [some ⟨some 5000, none, none⟩, none, none, none, some ⟨none, none, some (9, 250, 50)⟩]
  have hmeans : (Toml.read text.toList).map meanings = .ok both := by decide +kernel
  have hmeans' : (Toml.read text'.toList).map meanings = .ok both := by decide +kernel
  have hread : Settings.read text = .ok { port := 5000, queryRetry := ⟨9, 250, 50⟩ } := by
    decide +kernel
  obtain ⟨es, hdoc, hes⟩ := map_eq_ok_iff.1 hmeans
  obtain ⟨es', hdoc', hes'⟩ := map_eq_ok_iff.1 hmeans'
  obtain ⟨-, hsome, -, hsame, -, -⟩ := read_follows_schema hdoc
  exact ⟨es, es', hdoc, hdoc', hsome.1 ⟨_, hread⟩, hsame text' es' hdoc' (hes.trans hes'.symm)⟩

end Settings

end LaunchGuard
