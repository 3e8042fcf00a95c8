/-
# Settings that are read back

Settings are written as a plain document, and its entries give the same settings again.  The format
cannot hold times that do not fit into 64 bits with a sign, and no document holds such times, so
whatever can be read can be written.
-/
import LaunchGuard.Proofs.Settings.Schema
import LaunchGuard.Proofs.Toml.PlainDocument
import LaunchGuard.Settings.Store

namespace LaunchGuard

open Toml

/-- The times of both policies can be written. -/
def Settings.IsWritable (s : Settings) : Prop :=
  s.notifyRetry.isWritable = true ∧ s.queryRetry.isWritable = true

lemma RetryPolicy.isWritable_iff {p : RetryPolicy} :
    p.isWritable = true ↔ p.timeout.toNat ≤ longestTime ∧ p.delay.toNat ≤ longestTime := by
  rw [RetryPolicy.isWritable, Bool.and_eq_true, decide_eq_true_eq, decide_eq_true_eq]

lemma Settings.write_eq_ok_iff {s : Settings} {text : String} :
    s.write = .ok text ↔ s.IsWritable ∧ s.written = text := by
  rw [Settings.write, Settings.IsWritable, ← Bool.and_eq_true]
  split
  · next h => exact ⟨fun heq => ⟨h, Except.ok.inj heq⟩, fun heq => congrArg Except.ok heq.2⟩
  · next h => exact ⟨nofun, fun heq => absurd heq.1 h⟩

/-! ### The document that is written -/

/-- The line of a whole number that is not too large. -/
def wholeLine (key : List Char) (n : Nat) (hkey : IsBareKey key) (hn : n ≤ longestTime) :
    PlainLine where
  key := key
  word := Nat.toDigits 10 n
  content := .integer n
  bareKey := hkey
  bareWord := by
    refine ⟨Nat.toDigits_ne_nil, fun c hc => ?_⟩
    have hdigit : c.isDigit = true := Number.isDigit_of_mem_toDigits hc
    simp [isWordChar, Char.isAlphanum, hdigit]
  stands := ofWord?_toDigits (Nat.lt_succ_of_le hn)

/-- The line of a switch. -/
def flagLine (key : List Char) (b : Bool) (hkey : IsBareKey key) : PlainLine where
  key := key
  word := (writtenFlag b).toList
  content := .boolean b
  bareKey := hkey
  bareWord := by cases b <;> decide
  stands := by cases b <;> rfl

lemma text_wholeLine {key : List Char} {n : Nat} (hkey : IsBareKey key) (hn : n ≤ longestTime) :
    (wholeLine key n hkey hn).text = (writtenLine (String.ofList key) (writtenNat n)).toList := by
  simp [wholeLine, PlainLine.text, assignmentLine, writtenLine, writtenNat]

lemma text_flagLine {key : List Char} {b : Bool} (hkey : IsBareKey key) :
    (flagLine key b hkey).text = (writtenLine (String.ofList key) (writtenFlag b)).toList := by
  simp [flagLine, PlainLine.text, assignmentLine, writtenLine]

lemma toNat_le_longestTime (n : UInt32) : n.toNat ≤ longestTime :=
  Nat.le_of_lt (Nat.lt_of_lt_of_le n.toNat_lt (by decide))

/-- The section of a policy whose times can be written. -/
def RetryPolicy.document (key : List Char) (hkey : IsBareKey key) (p : RetryPolicy)
    (hp : p.isWritable = true) : PlainSection where
  key := key
  lines :=
    [wholeLine "max_attempts".toList p.maxAttempts.toNat (by decide) (toNat_le_longestTime _),
      wholeLine "timeout_ms".toList p.timeout.toNat (by decide) (isWritable_iff.1 hp).1,
      wholeLine "delay_ms".toList p.delay.toNat (by decide) (isWritable_iff.1 hp).2]
  bareKey := hkey

/-- The document of settings that can be written. -/
def Settings.document (s : Settings) (hs : s.IsWritable) : PlainDocument where
  start :=
    [wholeLine "port".toList s.port.toNat (by decide)
        (Nat.le_of_lt (Nat.lt_of_lt_of_le s.port.toNat_lt (by decide))),
      flagLine "single_instance_enabled".toList s.singleInstance (by decide),
      flagLine "log_to_file".toList s.logToFile (by decide)]
  sections :=
    [s.notifyRetry.document "notify_retry".toList (by decide) hs.1,
      s.queryRetry.document "query_retry".toList (by decide) hs.2]

lemma RetryPolicy.text_document {key : List Char} (hkey : IsBareKey key) {p : RetryPolicy}
    (hp : p.isWritable = true) :
    (p.document key hkey hp).text = (p.written (String.ofList key)).toList := by
  simp [RetryPolicy.document, PlainSection.text, headerLine, RetryPolicy.written, text_wholeLine]

lemma Settings.text_document {s : Settings} (hs : s.IsWritable) :
    (s.document hs).text = s.written.toList := by
  simp [Settings.document, PlainDocument.text, Settings.written, text_wholeLine, text_flagLine,
    RetryPolicy.text_document]

lemma Settings.distinct_document {s : Settings} (hs : s.IsWritable) :
    (s.document hs).Distinct where
  top := by
    simp [Settings.document, wholeLine, flagLine, RetryPolicy.document]
  inside := by
    simp [Settings.document, wholeLine, flagLine, RetryPolicy.document]

/-! ### Its entries -/

namespace Settings

/-- The entry of a policy is read as the policy. -/
lemma readPolicy_document {key : List Char} {hkey : IsBareKey key} {p : RetryPolicy}
    {hp : p.isWritable = true} {e : String × Value} (h : (p.document key hkey hp).Makes e) :
    e.1 = String.ofList key ∧ readPolicy e.2 = .ok p := by
  obtain ⟨m, es, rfl, hes⟩ := h
  refine ⟨rfl, ?_⟩
  rcases hes with _ | ⟨⟨a, rfl⟩, _ | ⟨⟨b, rfl⟩, _ | ⟨⟨c, rfl⟩, _ | _⟩⟩⟩
  have hcount : readCount (.scalar a (.integer p.maxAttempts.toNat)) = .ok p.maxAttempts :=
    readCount_eq_ok_iff.2 rfl
  have htimeout : readTime (.scalar b (.integer p.timeout.toNat)) = .ok p.timeout :=
    readTime_eq_ok_iff.2 rfl
  have hdelay : readTime (.scalar c (.integer p.delay.toNat)) = .ok p.delay :=
    readTime_eq_ok_iff.2 rfl
  simp [readPolicy, PolicyDraft.add, wholeLine, hcount, htimeout, hdelay, PolicyDraft.finish,
    ok_bind]

/-- The entries of the document give the settings. -/
lemma ofEntries_document {s : Settings} {hs : s.IsWritable} {es es' : Entries}
    (hes : List.Forall₂ PlainLine.Makes (s.document hs).start es)
    (hes' : List.Forall₂ PlainSection.Makes (s.document hs).sections es') :
    ofEntries (es ++ es') = .ok s := by
  rcases hes with _ | ⟨⟨a, rfl⟩, _ | ⟨⟨b, rfl⟩, _ | ⟨⟨c, rfl⟩, _ | _⟩⟩⟩
  rcases hes' with _ | ⟨hnotify, _ | ⟨hquery, _ | _⟩⟩
  obtain ⟨hkey, hnotify⟩ := readPolicy_document hnotify
  obtain ⟨hkey', hquery⟩ := readPolicy_document hquery
  have hport : readPort (.scalar a (.integer s.port.toNat)) = .ok s.port :=
    readPort_eq_ok_iff.2 rfl
  simp [ofEntries, add, wholeLine, flagLine, hport, readFlag, hkey, hnotify, hkey', hquery, ok_bind]

/-- What is written is read as the settings that were written. -/
lemma read_written {s : Settings} (hs : s.IsWritable) : Settings.read s.written = .ok s := by
  obtain ⟨es, es', hes, hes', hread⟩ := read_plain (distinct_document hs)
  rw [text_document hs] at hread
  simp only [Settings.read, hread, ofEntries_document hes hes']

/-! ### What can be read can be written -/

/-- No value holds a policy with a time that is too long to be written. -/
lemma isWritable_of_given {p old : RetryPolicy} (hold : old.isWritable = true)
    {found : Option Value} (hfound : ∀ v, found = some v → v.WellFormed)
    (h : Given IsPolicyOf old p found) : p.isWritable = true := by
  cases found with
  | none =>
    cases h
    exact hold
  | some v =>
    obtain ⟨a, b, c, hfields, -, ht, hd⟩ := Value.policyNumbers?_eq_some_iff.1 h
    obtain ⟨-, hb, hc⟩ := (hfound v rfl).policyFields? hfields
    exact RetryPolicy.isWritable_iff.2 ⟨hb.le_of_asInteger? ht, hc.le_of_asInteger? hd⟩

/-- No text holds a time that is too long to be written. -/
lemma isWritable_of_read {text : String} {s : Settings} (h : Settings.read text = .ok s) :
    s.IsWritable := by
  obtain ⟨es, hdoc, hgiven⟩ := exists_givenBy_of_read h
  have hes : es.WellFormed := wellFormed_read hdoc
  exact ⟨isWritable_of_given (by decide) (fun _ => hes.lookup) hgiven.notifyRetry,
    isWritable_of_given (by decide) (fun _ => hes.lookup) hgiven.queryRetry⟩

/-- **Settings survive the file.**  Settings can be written exactly if none of their four times
exceeds the longest one, and what is written is read as the same settings.  Settings that are read
from any text can be written; to read what was written and to write it again changes no character
of it. -/
theorem read_write_round_trip (s : Settings) :
    ((∃ text, s.write = .ok text) ↔
      s.notifyRetry.timeout.toNat ≤ 2 ^ 63 - 1 ∧ s.notifyRetry.delay.toNat ≤ 2 ^ 63 - 1 ∧
        s.queryRetry.timeout.toNat ≤ 2 ^ 63 - 1 ∧ s.queryRetry.delay.toNat ≤ 2 ^ 63 - 1) ∧
    (∀ text, s.write = .ok text → Settings.read text = .ok s) ∧
    (∀ text, Settings.read text = .ok s → ∃ text', s.write = .ok text') ∧
    ∀ text, s.write = .ok text → ∃ s', Settings.read text = .ok s' ∧ s'.write = .ok text := by
  have hread : ∀ text, s.write = .ok text → Settings.read text = .ok s := by
    intro text htext
    obtain ⟨hs, rfl⟩ := write_eq_ok_iff.1 htext
    exact read_written hs
  refine ⟨?_, hread, ?_, fun text htext => ⟨s, hread text htext, htext⟩⟩
  · calc (∃ text, s.write = .ok text) ↔ s.IsWritable :=
        ⟨fun ⟨_, h⟩ => (write_eq_ok_iff.1 h).1, fun hs => ⟨_, write_eq_ok_iff.2 ⟨hs, rfl⟩⟩⟩
      _ ↔ _ := by
        rw [IsWritable, RetryPolicy.isWritable_iff, RetryPolicy.isWritable_iff, and_assoc]
        rfl
  · intro text htext
    exact ⟨_, write_eq_ok_iff.2 ⟨isWritable_of_read htext, rfl⟩⟩

end Settings

end LaunchGuard
