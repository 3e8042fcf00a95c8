/-
# One owner for each lock file

Locks, open files and locked files agree, whatever happens.  As long as no file is removed that a
lock owns, the path of an owner also leads to the file that it has open.  Two owners with one path
would then have one file open, which cannot be.
-/
import LaunchGuard.Proofs.Lock.Agreement

namespace LaunchGuard

/-- Two locks have one lock file: their folders and file names are the same, or their paths lead to
the same file. -/
def Lock.SharesFile (t : Tree) (l l' : Lock) : Prop :=
  l.folder = l'.folder ∧ fileName l.name = fileName l'.name ∨ t.SameFile l.path l'.path

namespace Registry

variable {r r' : Registry} {id : String} {l : Lock}

/-- The event does not remove a file that a lock owns. -/
def Spares (r : Registry) : LockEvent → Prop
  | .remove p => ∀ id l, r.lock? id = some l → l.state = .ownedHere → ¬r.tree.SameFile p l.path
  | _ => True

/-- None of the events removes a file that a lock owns by then. -/
def KeepsOwned (r : Registry) : List LockEvent → Prop
  | [] => True
  | e :: es => r.Spares e ∧ (r.happen e).KeepsOwned es

/-- A lock of another identifier owns the file of the lock. -/
def OwnedElsewhere (r : Registry) (id : String) (l : Lock) : Prop :=
  ∃ id' l', id' ≠ id ∧ r.lock? id' = some l' ∧ l'.state = .ownedHere ∧ l.SharesFile r.tree l'

/-! ### Owners find their files at their paths -/

/-- The locks, their open files and the locked files agree. -/
structure Sound (r : Registry) : Prop where
  numbered : r.tree.Numbered
  distinct : (r.locks.map Prod.fst).Nodup
  /-- Exactly the owners have a file open. -/
  owner : ∀ id l, r.lock? id = some l → (l.state = .ownedHere ↔ ∃ n, l.handle = some n)
  /-- The open file is the one at the path of the lock. -/
  opened : ∀ id l n, r.lock? id = some l → l.handle = some n → r.tree.fileAt? l.path = some n
  /-- Exactly the open files are locked. -/
  locked : ∀ n, n ∈ r.held ↔ ∃ id, r.handle? id = some n
  /-- No file is open in two locks. -/
  apart : ∀ id id' n, r.handle? id = some n → r.handle? id' = some n → id = id'

namespace Sound

lemma consistent (hs : Sound r) : Consistent r where
  numbered := hs.numbered
  given n hn := by
    obtain ⟨id, hid⟩ := (hs.locked n).1 hn
    obtain ⟨l, hl, hln⟩ := handle?_eq_some_iff.1 hid
    exact hs.numbered.fileAt?_lt (hs.opened id l n hl hln)
  distinct := hs.distinct
  owner := hs.owner
  locked := hs.locked
  apart := hs.apart

lemma of_consistent (hc : Consistent r) (hopened : ∀ id l n, r.lock? id = some l →
    l.handle = some n → r.tree.fileAt? l.path = some n) : Sound r where
  numbered := hc.numbered
  distinct := hc.distinct
  owner := hc.owner
  opened := hopened
  locked := hc.locked
  apart := hc.apart

lemma start : Sound {} := of_consistent .start fun _ _ _ h => nomatch h

/-- The owner of a file has it open and locked, at its path. -/
lemma exists_handle (hs : Sound r) (h : r.lock? id = some l) (hown : l.state = .ownedHere) :
    ∃ n, r.handle? id = some n ∧ r.tree.fileAt? l.path = some n ∧ n ∈ r.held := by
  obtain ⟨n, hn⟩ := (hs.owner id l h).1 hown
  have hhandle := (handle?_of_lock? h).trans hn
  exact ⟨n, hhandle, hs.opened id l n h hn, (hs.locked n).2 ⟨id, hhandle⟩⟩

/-- Files may come and change as long as those that are locked stay. -/
lemma keeps (hs : Sound r) {t : Tree} (hk : r.tree.Keeps (· ∈ r.held) t) :
    Sound { r with tree := t } := by
  refine of_consistent (hs.consistent.keeps (hk.mono fun _ => False.elim)) fun id l n h hn => ?_
  have hheld : n ∈ r.held := (hs.locked n).2 ⟨id, (handle?_of_lock? h).trans hn⟩
  exact hk.fileAt? (hs.opened id l n h hn) hheld

/-- What a lock has open stays at its path, and what it takes is at its path. -/
lemma move (hs : Sound r) (h : Move id r r') : Sound r' := by
  have hkeeps : r.tree.Keeps (fun _ => True) r'.tree := h.keeps
  refine of_consistent (hs.consistent.move h) fun i l n hl hn => ?_
  by_cases hi : i = id
  · subst hi
    obtain ⟨l₀, hl₀, hn₀, hpath⟩ | hfile := h.opened hl hn
    · exact hkeeps.fileAt? (hpath ▸ hs.opened i l₀ n hl₀ hn₀) trivial
    · exact hfile
  · rw [h.lock?_of_ne hi] at hl
    exact hkeeps.fileAt? (hs.opened i l n hl hn) trivial

lemma moves (hs : Sound r) (h : Moves id r r') : Sound r' := by
  induction h with
  | refl => exact hs
  | tail _ hmove ih => exact ih.move hmove

/-- A step of a lock keeps the paths of the owners right, whatever the lock; so does a change of the
files that spares what the locks own. -/
lemma happen (hs : Sound r) {e : LockEvent} (he : r.Spares e) : Sound (r.happen e) := by
  cases e with
  | step s => exact hs.moves (perform_moves r s)
  | makeFolders p => exact hs.keeps (Tree.keeps_ensureChain r.tree (p :: p.ancestors))
  | write p content =>
    rw [Registry.happen]
    cases ht : r.tree.write p content with
    | ok t => exact hs.keeps (Tree.keeps_write ht)
    | error f => exact hs
  | remove p =>
    rw [Registry.happen]
    cases ht : r.tree.remove p with
    | ok t =>
      obtain ⟨n, hfile, hkeeps⟩ := Tree.keeps_remove ht
      refine hs.keeps (hkeeps.mono ?_)
      -- the removed file is not locked, for a locked file is owned at a path that was spared
      rintro m hm rfl
      obtain ⟨id, hid⟩ := (hs.locked m).1 hm
      obtain ⟨l, hl, hlm⟩ := handle?_eq_some_iff.1 hid
      exact he id l hl ((hs.owner id l hl).2 ⟨m, hlm⟩) ⟨m, hfile, hs.opened id l m hl hlm⟩
    | error f => exact hs

lemma after (hs : Sound r) {es : List LockEvent} (h : r.KeepsOwned es) : Sound (r.after es) := by
  induction es generalizing r with
  | nil => exact hs
  | cons e es ih => exact ih (hs.happen h.1) h.2

/-! ### Owners exclude each other -/

/-- Who shares the lock file of an owner finds it at its path. -/
lemma fileAt?_of_shares (hs : Sound r) {id' : String} {l' : Lock} (h : r.lock? id' = some l')
    (hown : l'.state = .ownedHere) (hshare : l.SharesFile r.tree l') :
    ∃ n, r.handle? id' = some n ∧ r.tree.fileAt? l.path = some n ∧ n ∈ r.held := by
  obtain ⟨n, hhandle, hfile, hheld⟩ := hs.exists_handle h hown
  refine ⟨n, hhandle, ?_, hheld⟩
  obtain ⟨hfolder, hname⟩ | ⟨m, hm, hm'⟩ := hshare
  · rw [Lock.path, hfolder, hname]
    exact hfile
  · rw [hm, ← hm', hfile]

lemma eq_of_owners (hs : Sound r) {id' : String} {l' : Lock} (h : r.lock? id = some l)
    (h' : r.lock? id' = some l') (hown : l.state = .ownedHere) (hown' : l'.state = .ownedHere)
    (hshare : l.SharesFile r.tree l') : id = id' := by
  obtain ⟨n, hhandle, hfile, -⟩ := hs.exists_handle h hown
  obtain ⟨m, hhandle', hfile', -⟩ := hs.fileAt?_of_shares h' hown' hshare
  obtain rfl : n = m := Option.some.inj (hfile.symm.trans hfile')
  exact hs.apart id id' n hhandle hhandle'

lemma not_ownedElsewhere (hs : Sound r) (h : r.lock? id = some l) (hown : l.state = .ownedHere) :
    ¬r.OwnedElsewhere id l := by
  rintro ⟨id', l', hne, hl', hown', hshare⟩
  exact hne (hs.eq_of_owners h hl' hown hown' hshare).symm

/-- Another lock owns the file of a lock exactly if it has the file at its path open. -/
lemma takenElsewhere_iff (hs : Sound r) : r.TakenElsewhere id l ↔ r.OwnedElsewhere id l := by
  constructor
  · rintro ⟨i, l', n, hi, hl', hown', hn, hfile⟩
    exact ⟨i, l', hi, hl', hown', .inr ⟨n, hfile, hs.opened i l' n hl' hn⟩⟩
  · rintro ⟨i, l', hi, hl', hown', hshare⟩
    obtain ⟨n, hhandle, hfile, -⟩ := hs.fileAt?_of_shares hl' hown' hshare
    exact ⟨i, l', n, hi, hl', hown', (handle?_of_lock? hl').symm.trans hhandle, hfile⟩

/-- A lock finds its file locked exactly if another lock owns it. -/
lemma mem_held_iff (hs : Sound r) (h : r.lock? id = some l) (hown : l.state ≠ .ownedHere) {n : Nat}
    {t : Tree} (hopen : r.tree.openOrMake l.path = .ok (n, t)) :
    n ∈ r.held ↔ r.OwnedElsewhere id l :=
  (hs.consistent.mem_held_iff h hown hopen).trans hs.takenElsewhere_iff

/-- A lock whose file can be opened is refused it exactly if another lock owns it. -/
lemma acquire (hs : Sound r) (h : r.lock? id = some l)
    (hopen : (r.tree.openOrMake l.path).isOk = true) :
    r.OwnedElsewhere id l ∧ (r.acquire id).value.1 = some (.ok .alreadyHeld) ∨
      ¬r.OwnedElsewhere id l ∧ (r.acquire id).value.1 = some (.ok .acquired) := by
  have hanswer : (r.acquire id).value.1 = some (r.acquireLock id l).value.1 := by
    rw [Registry.acquire, h]
    rfl
  have hends := acquireLock_ends r id l
  rw [hanswer, ← hs.takenElsewhere_iff]
  by_cases htaken : r.TakenElsewhere id l
  · have hown : l.state ≠ .ownedHere :=
      fun hown => hs.not_ownedElsewhere h hown (hs.takenElsewhere_iff.1 htaken)
    have hheld := (hends.alreadyHeld_iff hs.consistent h).2 ⟨hown, hopen, htaken⟩
    exact .inl ⟨htaken, congrArg some hheld⟩
  · have hacquired := (hends.acquired_iff hs.consistent h).2 (.inr ⟨hopen, htaken⟩)
    exact .inr ⟨htaken, congrArg some hacquired⟩

end Sound

/-- A step of a lock leaves the owners of other identifiers alone. -/
lemma owner_after_step (hs : Sound r) {s : LockStep} (hne : s.id ≠ id) (h : r.lock? id = some l)
    (hown : l.state = .ownedHere) :
    (r.perform s).value.2.lock? id = some l ∧
      ∃ n, r.tree.fileAt? l.path = some n ∧ n ∈ r.held ∧
        (r.perform s).value.2.tree.fileAt? l.path = some n ∧ n ∈ (r.perform s).value.2.held := by
  have hmoves := perform_moves r s
  have hlock : (r.perform s).value.2.lock? id = some l :=
    (hmoves.lock?_of_ne (Ne.symm hne)).trans h
  obtain ⟨n, hhandle, hfile, hheld⟩ := hs.exists_handle h hown
  have hhandle' : (r.perform s).value.2.handle? id = some n := by
    rw [handle?_of_lock? hlock, ← handle?_of_lock? h, hhandle]
  have hkeeps : r.tree.Keeps (fun _ => True) (r.perform s).value.2.tree := hmoves.keeps
  exact ⟨hlock, n, hfile, hheld, hkeeps.fileAt? hfile trivial,
    ((hs.moves hmoves).locked n).2 ⟨id, hhandle'⟩⟩

/-- **Exclusion.**  After any run of lock steps, with the files around the locks changing in any way
that removes no owned file, no identifier has two locks and no lock file two owners.  A lock whose
file can be opened acquires it exactly if no other lock owns it, and is refused it exactly if
another lock does; the file of an owner can be opened, and the owner acquires it again.  No step of
one lock takes the file of another. -/
theorem run_excludes (es : List LockEvent) (hkeeps : ({} : Registry).KeepsOwned es) :
    let r := ({} : Registry).after es
    (r.locks.map Prod.fst).Nodup ∧
    (∀ a ∈ r.locks, ∀ b ∈ r.locks, a.2.state = .ownedHere → b.2.state = .ownedHere →
      a.2.SharesFile r.tree b.2 → a = b) ∧
    (∀ id l, r.lock? id = some l → (r.tree.openOrMake l.path).isOk = true →
      ((r.perform (.acquire id)).value.1 = .acquisition (.ok .acquired) ↔
        ¬r.OwnedElsewhere id l) ∧
      ((r.perform (.acquire id)).value.1 = .acquisition (.ok .alreadyHeld) ↔
        r.OwnedElsewhere id l)) ∧
    (∀ id l, r.lock? id = some l → l.state = .ownedHere →
      (r.tree.openOrMake l.path).isOk = true ∧ ¬r.OwnedElsewhere id l) ∧
    (∀ s id l, s.id ≠ id → r.lock? id = some l → l.state = .ownedHere →
      (r.perform s).value.2.lock? id = some l ∧
      ∃ n, r.tree.fileAt? l.path = some n ∧ n ∈ r.held ∧
        (r.perform s).value.2.tree.fileAt? l.path = some n ∧
        n ∈ (r.perform s).value.2.held) := by
  intro r
  have hs : Sound r := Sound.start.after hkeeps
  -- all parts follow from the agreement, which the run has kept
  refine ⟨hs.distinct, ?_, ?_, fun id l h hown => ⟨?_, hs.not_ownedElsewhere h hown⟩,
    fun s id l hne h hown => owner_after_step hs hne h hown⟩
  · rintro ⟨id, l⟩ ha ⟨id', l'⟩ hb hown hown' hshare
    have hl := (lookup_eq_some_iff_mem hs.distinct).2 ha
    have hl' := (lookup_eq_some_iff_mem hs.distinct).2 hb
    obtain rfl := hs.eq_of_owners hl hl' hown hown' hshare
    cases hl.symm.trans hl'
    rfl
  · intro id l h hopen
    have hanswer : (r.perform (.acquire id)).value.1 =
        (r.acquire id).value.1.elim .noLock .acquisition := rfl
    rw [hanswer]
    obtain ⟨helse, hrefused⟩ | ⟨helse, hacquired⟩ := hs.acquire h hopen
    · rw [hrefused]
      simp [helse]
    · rw [hacquired]
      simp [helse]
  · obtain ⟨n, -, hfile, -⟩ := hs.exists_handle h hown
    rw [Tree.openOrMake_of_fileAt? hfile]
    rfl

/-- Of two locks of one file, the second is refused it while the first owns it. -/
theorem run_excludes_second :
    let start : List LockEvent := [.makeFolders ⟨"a"⟩, .step (.create "x" "n" ⟨"a"⟩),
      .step (.create "y" "n" ⟨"./a"⟩), .step (.acquire "x")]
    ((({} : Registry).after start).perform (.acquire "y")).value.1 =
      .acquisition (.ok .alreadyHeld) := by
  intro start
  obtain ⟨-, -, hanswers, -, -⟩ :=
    run_excludes start ⟨trivial, trivial, trivial, trivial, trivial⟩
  refine ((hanswers "y" { name := "n", folder := ⟨"./a"⟩ } ?_ ?_).2).2 ?_
  · decide +kernel
  · decide +kernel
  · refine ⟨"x", { name := "n", folder := ⟨"a"⟩, state := .ownedHere, handle := some 0 },
      by decide, by decide +kernel, rfl, .inr ⟨0, by decide +kernel, by decide +kernel⟩⟩

end Registry

end LaunchGuard
