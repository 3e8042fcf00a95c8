/-
# Locks, open files and locked files

The state that a lock keeps, the file that it has open and the files that the system has locked are
kept apart, and every step must change them together.  They agree if each locked file is open in
exactly one lock, which is one that owns it.  This is true of the registry without locks and
survives whatever may happen to it.  Even a file that is removed stays open and locked, only that no
path leads to it any more.
-/
import LaunchGuard.Proofs.Lock.Moves

namespace LaunchGuard

/-- What may happen to the registry: a step of a lock, or a change of the files around the locks. -/
inductive LockEvent where
  | step (s : LockStep)
  | makeFolders (p : Path)
  | write (p : Path) (content : List UInt8)
  | remove (p : Path)
deriving DecidableEq, Repr

namespace Registry

variable {r r' : Registry} {id : String} {l : Lock}

/-- The registry after an event; a change of the files that fails changes nothing, but for the
folders that were made before it failed. -/
def happen (r : Registry) : LockEvent → Registry
  | .step s => (r.perform s).value.2
  | .makeFolders p => { r with tree := (r.tree.ensureFolders p).1 }
  | .write p content =>
    match r.tree.write p content with
    | .ok t => { r with tree := t }
    | .error _ => r
  | .remove p =>
    match r.tree.remove p with
    | .ok t => { r with tree := t }
    | .error _ => r

/-- The registry after any number of events. -/
def after (r : Registry) : List LockEvent → Registry
  | [] => r
  | e :: es => (r.happen e).after es

/-! ### What stays in agreement -/

/-- The file that the lock of an identifier has open. -/
def handle? (r : Registry) (id : String) : Option Nat := (r.lock? id).bind (·.handle)

lemma handle?_eq_some_iff {n : Nat} :
    r.handle? id = some n ↔ ∃ l, r.lock? id = some l ∧ l.handle = some n :=
  Option.bind_eq_some_iff

lemma handle?_of_lock? (h : r.lock? id = some l) : r.handle? id = l.handle := by
  rw [handle?, h, Option.bind_some]

/-- Locks, open files and locked files agree. -/
structure Consistent (r : Registry) : Prop where
  numbered : r.tree.Numbered
  /-- The numbers of locked files have been given, so that no new file gets one of them. -/
  given : ∀ n ∈ r.held, n < r.tree.next
  distinct : (r.locks.map Prod.fst).Nodup
  /-- Exactly the owners have a file open. -/
  owner : ∀ id l, r.lock? id = some l → (l.state = .ownedHere ↔ ∃ n, l.handle = some n)
  /-- Exactly the open files are locked. -/
  locked : ∀ n, n ∈ r.held ↔ ∃ id, r.handle? id = some n
  /-- No file is open in two locks. -/
  apart : ∀ id id' n, r.handle? id = some n → r.handle? id' = some n → id = id'

namespace Consistent

lemma start : Consistent {} where
  numbered place n c h := by
    rw [Tree.find?_of_ne_nil (Tree.ne_nil_of_find?_file h)] at h
    cases h
  given := nofun
  distinct := List.nodup_nil
  owner _ _ h := nomatch h
  locked n := ⟨nofun, fun ⟨_, h⟩ => nomatch h⟩
  apart _ _ _ h := nomatch h

lemma handle_eq_none (hc : Consistent r) (h : r.lock? id = some l) (hown : l.state ≠ .ownedHere) :
    l.handle = none := by
  refine Option.eq_none_iff_forall_ne_some.2 fun n hn => ?_
  exact hown ((hc.owner id l h).2 ⟨n, hn⟩)

/-- The files around the locks may change in any way, and none of them need stay. -/
lemma keeps (hc : Consistent r) {t : Tree} (hk : r.tree.Keeps (fun _ => False) t) :
    Consistent { r with tree := t } where
  numbered := hk.numbered hc.numbered
  given n hn := Nat.lt_of_lt_of_le (hc.given n hn) hk.next_le
  distinct := hc.distinct
  owner := hc.owner
  locked := hc.locked
  apart := hc.apart

/-- One lock may change together with the file that it has open: what it gives up is unlocked, and
what it takes was not locked before. -/
lemma change (hc : Consistent r) (id : String) (htree : r'.tree = r.tree)
    (hdistinct : (r'.locks.map Prod.fst).Nodup) (hframe : ∀ i, i ≠ id → r'.lock? i = r.lock? i)
    (hnew : ∀ l, r'.lock? id = some l → (l.state = .ownedHere ↔ ∃ n, l.handle = some n))
    (hheld : ∀ n, n ∈ r'.held ↔
      r'.handle? id = some n ∨ n ∈ r.held ∧ r.handle? id ≠ some n)
    (hfree : ∀ n, r'.handle? id = some n → n < r.tree.next ∧ n ∉ r.held) : Consistent r' := by
  have hother : ∀ i, i ≠ id → r'.handle? i = r.handle? i := by
    intro i hi
    rw [handle?, hframe i hi, handle?]
  -- what another lock has open was locked, so the changed lock cannot have taken it
  have hnone : ∀ i n, i ≠ id → r'.handle? i = some n → r'.handle? id ≠ some n := by
    intro i n hi hn hid
    rw [hother i hi] at hn
    exact (hfree n hid).2 ((hc.locked n).2 ⟨i, hn⟩)
  refine ⟨htree ▸ hc.numbered, fun n hn => ?_, hdistinct, fun i l h => ?_, fun n => ?_,
    fun i j n hi hj => ?_⟩
  · rw [htree]
    rcases (hheld n).1 hn with hid | ⟨hn, -⟩
    · exact (hfree n hid).1
    · exact hc.given n hn
  · by_cases hi : i = id
    · subst hi
      exact hnew l h
    · exact hc.owner i l (hframe i hi ▸ h)
  · rw [hheld, hc.locked]
    constructor
    · rintro (hid | ⟨⟨i, hi⟩, hne⟩)
      · exact ⟨id, hid⟩
      · have hine : i ≠ id := by
          rintro rfl
          exact hne hi
        exact ⟨i, (hother i hine).trans hi⟩
    · rintro ⟨i, hi⟩
      by_cases hid : i = id
      · exact .inl (hid ▸ hi)
      · rw [hother i hid] at hi
        exact .inr ⟨⟨i, hi⟩, fun h => hid (hc.apart i id n hi h)⟩
  · by_cases hii : i = id
    · by_cases hji : j = id
      · rw [hii, hji]
      · exact absurd (hii ▸ hi) (hnone j n hji hj)
    · by_cases hji : j = id
      · exact absurd (hji ▸ hj) (hnone i n hii hi)
      · exact hc.apart i j n (hother i hii ▸ hi) (hother j hji ▸ hj)

/-- A lock is replaced by another one. -/
lemma put (hc : Consistent r) (h : r.lock? id = some l) {l' : Lock} {held : List Nat}
    (hown : l'.state = .ownedHere ↔ ∃ n, l'.handle = some n)
    (hfree : ∀ n, l'.handle = some n → n < r.tree.next ∧ n ∉ r.held)
    (hheld : ∀ n, n ∈ held ↔ l'.handle = some n ∨ n ∈ r.held ∧ l.handle ≠ some n) :
    Consistent ({ r with held := held }.put id l') := by
  have hheld' : ({ r with held := held } : Registry).lock? id = some l := h
  have hput := lock?_put_self hheld' l'
  refine hc.change id rfl ?_ (fun i hi => ?_) (fun l₁ h₁ => ?_) (fun n => ?_) (fun n hn => ?_)
  · rw [keys_put]
    exact hc.distinct
  · rw [lock?_put, if_neg hi]
    rfl
  · cases hput.symm.trans h₁
    exact hown
  · rw [handle?_of_lock? hput, handle?_of_lock? h]
    exact hheld n
  · rw [handle?_of_lock? hput] at hn
    exact hfree n hn

/-- A lock without an open file goes away. -/
lemma erase (hc : Consistent r) (hclosed : r.handle? id = none) : Consistent (r.erase id) := by
  have hgone : (r.erase id).lock? id = none := (lock?_erase r id id).trans (if_pos rfl)
  have hgone' : (r.erase id).handle? id = none := by rw [handle?, hgone, Option.bind_none]
  refine hc.change id rfl ?_ (fun i hi => ?_) (fun l h => ?_) (fun n => ?_) (fun n hn => ?_)
  · exact hc.distinct.sublist (List.filter_sublist.map _)
  · rw [lock?_erase, if_neg hi]
  · exact nomatch hgone.symm.trans h
  · rw [hclosed, hgone']
    simp [Registry.erase]
  · exact nomatch hgone'.symm.trans hn

/-- A lock that owns nothing comes under a free identifier. -/
lemma add (hc : Consistent r) (hfree : r.lock? id = none) (name : String) (folder : Path) :
    Consistent { r with locks := r.locks ++ [(id, { name, folder })] } := by
  have hadd := lock?_append r id id { name, folder }
  rw [hfree, if_pos rfl, Option.none_or] at hadd
  have hclosed : r.handle? id = none := by rw [handle?, hfree, Option.bind_none]
  have hclosed' := handle?_of_lock? hadd
  refine hc.change id rfl ?_ (fun i hi => ?_) (fun l h => ?_) (fun n => ?_) (fun n hn => ?_)
  · exact nodup_keys_concat hc.distinct hfree _
  · rw [lock?_append, if_neg hi, Option.or_none]
  · cases hadd.symm.trans h
    simp
  · rw [hclosed, hclosed']
    simp
  · exact nomatch hclosed'.symm.trans hn

/-- Every move of a lock keeps the agreement. -/
lemma move (hc : Consistent r) (h : Move id r r') : Consistent r' := by
  cases h with
  | @refuse l n t hl hown hopen hn =>
    have hnone := hc.handle_eq_none hl hown
    have hc' := hc.keeps (Tree.keeps_openOrMake hopen)
    refine hc'.put hl ?_ ?_ ?_
    · simp [hnone]
    · simp [hnone]
    · simp [hnone]
  | @take l n t hl hown hopen hn =>
    have hnone := hc.handle_eq_none hl hown
    have hc' := hc.keeps (Tree.keeps_openOrMake hopen)
    -- the file was not locked, so no other lock has it open
    refine hc'.put hl ?_ ?_ ?_
    · simp
    · rintro _ ⟨⟩
      exact ⟨hc'.numbered.fileAt?_lt (Tree.fileAt?_openOrMake hopen), hn⟩
    · intro m
      rw [List.mem_cons, hnone, Option.some.injEq, eq_comm]
      simp
  | @give l n hl hn =>
    refine hc.put hl ?_ ?_ ?_
    · simp
    · simp
    · intro m
      simp [hn, @eq_comm _ m n]
  | @forget l hl hnone =>
    refine hc.put hl ?_ ?_ ?_
    · simp
    · simp
    · simp [hnone]
  | erase hnone => exact hc.erase (Option.bind_eq_none_iff.2 hnone)
  | add name folder hfree => exact hc.add hfree name folder

lemma moves (hc : Consistent r) (h : Moves id r r') : Consistent r' := by
  induction h with
  | refl => exact hc
  | tail _ hmove ih => exact ih.move hmove

/-- Whatever happens keeps the agreement, be it to the locks or to the files. -/
lemma happen (hc : Consistent r) (e : LockEvent) : Consistent (r.happen e) := by
  cases e with
  | step s => exact hc.moves (perform_moves r s)
  | makeFolders p =>
    exact hc.keeps (Tree.keeps_ensureChain r.tree (p :: p.ancestors))
  | write p content =>
    rw [Registry.happen]
    cases ht : r.tree.write p content with
    | ok t => exact hc.keeps (Tree.keeps_write ht)
    | error f => exact hc
  | remove p =>
    rw [Registry.happen]
    cases ht : r.tree.remove p with
    | ok t =>
      obtain ⟨n, -, hkeeps⟩ := Tree.keeps_remove ht
      exact hc.keeps (hkeeps.mono fun _ => False.elim)
    | error f => exact hc

lemma after (hc : Consistent r) (es : List LockEvent) : Consistent (r.after es) := by
  induction es generalizing r with
  | nil => exact hc
  | cons e es ih => exact ih (hc.happen e)

end Consistent

/-! ### Files that other locks have open -/

/-- A lock of another identifier owns the file that the path of the lock leads to: it has that very
file open. -/
def TakenElsewhere (r : Registry) (id : String) (l : Lock) : Prop :=
  ∃ i l' n, i ≠ id ∧ r.lock? i = some l' ∧ l'.state = .ownedHere ∧ l'.handle = some n ∧
    r.tree.fileAt? l.path = some n

/-- A lock that does not own its file finds it locked exactly if another lock has it open. -/
lemma Consistent.mem_held_iff (hc : Consistent r) (h : r.lock? id = some l)
    (hown : l.state ≠ .ownedHere) {n : Nat} {t : Tree}
    (hopen : r.tree.openOrMake l.path = .ok (n, t)) : n ∈ r.held ↔ r.TakenElsewhere id l := by
  constructor
  · intro hn
    obtain ⟨i, hi⟩ := (hc.locked n).1 hn
    obtain ⟨l', hl', hn'⟩ := handle?_eq_some_iff.1 hi
    have hown' : l'.state = .ownedHere := (hc.owner i l' hl').2 ⟨n, hn'⟩
    refine ⟨i, l', n, ?_, hl', hown', hn', ?_⟩
    · rintro rfl
      cases h.symm.trans hl'
      exact hown hown'
    · obtain ⟨hfile, -⟩ | ⟨-, hnext, -, -⟩ := Tree.openOrMake_eq_ok hopen
      · exact hfile
      -- a file that had to be made has a number that no locked file has
      · have hlt : n < r.tree.next := hc.given n hn
        omega
  · rintro ⟨i, l', m, -, hl', -, hm, hfile⟩
    rw [Tree.openOrMake_of_fileAt? hfile] at hopen
    cases hopen
    exact (hc.locked n).2 ⟨i, (handle?_of_lock? hl').trans hm⟩

/-! ### What an attempt to acquire is answered -/

namespace AcquireEnds

variable {answer : Except LockFault Acquisition} (hends : AcquireEnds r id l answer r')
  (hc : Consistent r) (h : r.lock? id = some l)

include hends hc h

lemma acquired_iff : answer = .ok .acquired ↔ l.state = .ownedHere ∨
    (r.tree.openOrMake l.path).isOk = true ∧ ¬r.TakenElsewhere id l := by
  cases hends with
  | again hown => simp [hown]
  | failed hown hopen => simp [hown, hopen, Except.isOk, Except.toBool]
  | refused hown hopen hn =>
    have htaken : r.TakenElsewhere id l := (hc.mem_held_iff h hown hopen).1 hn
    simp [hown, htaken]
  | taken hown hopen hn =>
    have hfree : ¬r.TakenElsewhere id l := mt (hc.mem_held_iff h hown hopen).2 hn
    simp [hopen, hfree, Except.isOk, Except.toBool]

lemma alreadyHeld_iff : answer = .ok .alreadyHeld ↔ l.state ≠ .ownedHere ∧
    (r.tree.openOrMake l.path).isOk = true ∧ r.TakenElsewhere id l := by
  cases hends with
  | again hown => simp [hown]
  | failed hown hopen => simp [hopen, Except.isOk, Except.toBool]
  | refused hown hopen hn =>
    have htaken : r.TakenElsewhere id l := (hc.mem_held_iff h hown hopen).1 hn
    simp [hown, hopen, htaken, Except.isOk, Except.toBool]
  | taken hown hopen hn =>
    have hfree : ¬r.TakenElsewhere id l := mt (hc.mem_held_iff h hown hopen).2 hn
    simp [hfree]

omit hc h in
lemma error_iff : (∃ f, answer = .error f) ↔
    l.state ≠ .ownedHere ∧ ¬(r.tree.openOrMake l.path).isOk = true := by
  cases hends with
  | again hown => simp [hown]
  | failed hown hopen => simp [hown, hopen, Except.isOk, Except.toBool]
  | refused hown hopen hn => simp [hopen, Except.isOk, Except.toBool]
  | taken hown hopen hn => simp [hopen, Except.isOk, Except.toBool]

/-- A lock that is acquired owns its file, and has it open. -/
lemma owns (hacquired : answer = .ok .acquired) :
    ∃ n, r'.lock? id = some { l with state := .ownedHere, handle := some n } := by
  cases hends with
  | again hown =>
    obtain ⟨n, hn⟩ := (hc.owner id l h).1 hown
    refine ⟨n, ?_⟩
    rw [h, ← hown, ← hn]
  | @taken n t hown hopen hn =>
    have h' : ({ r with tree := t, held := n :: r.held } : Registry).lock? id = some l := h
    exact ⟨n, lock?_put_self h' _⟩
  | _ => cases hacquired

end AcquireEnds

end Registry

end LaunchGuard
