/-
# Claiming a launch with a new lock

A launch creates its lock and claims the launch with it at once.  The lock is new, so there are four
ways for this to end: it is left alone, its file cannot be opened, another lock has the file, or the
file is taken.  In all but the last the lock goes away again, and the registry is what it was before.
-/
import LaunchGuard.Proofs.Lock.Groups

namespace LaunchGuard.Registry

variable {r : Registry} {id : String} {l : Lock}

/-- The registry with one more lock. -/
def add (r : Registry) (id : String) (l : Lock) : Registry := { r with locks := r.locks ++ [(id, l)] }

lemma erase_of_free (h : r.lock? id = none) : r.erase id = r := by
  rw [erase, remove_of_notMem (notMem_of_lookup_eq_none h)]

lemma drop_of_free (h : r.lock? id = none) : r.drop id = pure (false, r) := by
  have hrelease : r.release id = pure (false, r) := by
    rw [release, h]
  rw [drop, hrelease]
  exact congrArg (fun r' => pure (false, r')) (erase_of_free h)

lemma create_of_free (h : r.lock? id = none) (name : String) (folder : Path) :
    r.create id name folder = pure (r.add id { name, folder }) := by
  rw [create, drop_of_free h]
  rfl

/-! ### The lock after a claim -/

/-- The lock of a primary instance stays. -/
lemma claimLock_of_primary {enabled : Bool} {r' : Registry} {log : List Entry}
    (hclaim : LaunchGuard.claim enabled r (r.acquireLock id l) = ⟨(.ok .primary, r'), log⟩) :
    r.claimLock id l enabled = ⟨(.ok .primary, r'), log⟩ := by
  rw [claimLock, hclaim]
  exact congrArg (Logged.mk _) (List.append_nil log)

/-- In every other case it is dropped. -/
lemma claimLock_of_drop {enabled : Bool} {result : Except LockFault Role} {r' r'' : Registry}
    {log : List Entry} {found : Bool} (hresult : result ≠ .ok .primary)
    (hclaim : LaunchGuard.claim enabled r (r.acquireLock id l) = ⟨(result, r'), log⟩)
    (hdrop : r'.drop id = pure (found, r'')) :
    r.claimLock id l enabled = ⟨(result, r''), log⟩ := by
  rw [claimLock, hclaim]
  have hlog : log ++ ((r'.drop id).log ++ []) = log := by rw [hdrop]; exact List.append_nil log
  have hvalue : (r'.drop id).value.2 = r'' := by rw [hdrop]; rfl
  rcases result with f | _ | _ | _
  · exact congrArg₂ (fun r log => Logged.mk (_, r) log) hvalue hlog
  · exact absurd rfl hresult
  · exact congrArg₂ (fun r log => Logged.mk (_, r) log) hvalue hlog
  · exact congrArg₂ (fun r log => Logged.mk (_, r) log) hvalue hlog

/-! ### A new lock -/

section Added

variable (h : r.lock? id = none)

include h

lemma lock?_add (l : Lock) : (r.add id l).lock? id = some l := by
  rw [add, lock?_append, h, Option.none_or, if_pos rfl]

lemma put_add (l l' : Lock) : (r.add id l).put id l' = r.add id l' := by
  have hlocks : (r.locks.map fun e => if e.1 = id then (id, l') else e) = r.locks := by
    refine (List.map_congr_left fun e he => if_neg ?_).trans (List.map_id _)
    rintro rfl
    exact notMem_of_lookup_eq_none h (List.mem_map.2 ⟨e, he, rfl⟩)
  rw [put, add, add, List.map_append, hlocks, List.map_singleton, if_pos rfl]

lemma erase_add (l : Lock) : (r.add id l).erase id = r := by
  rw [erase, add, List.filter_append, List.filter_cons_of_neg (by simp), List.filter_nil,
    List.append_nil]
  exact erase_of_free h

/-- A lock that has no file open goes away without a trace. -/
lemma drop_add (hl : l.handle = none) : (r.add id l).drop id = pure (true, r) := by
  have hrelease : (r.add id l).releaseLock id l = pure (r.add id { l with state := .unowned }) := by
    rw [releaseLock, hl]
    exact congrArg pure (put_add h l _)
  rw [drop, release, lock?_add h l]
  simp only [hrelease]
  exact congrArg (fun r' => pure (true, r')) (erase_add h _)

/-- One that has a file open, which nobody else has, gives it back and leaves nothing else. -/
lemma drop_add_open {n : Nat} (hl : l.handle = some n) (hn : n ∉ r.held) :
    (({ r with held := n :: r.held } : Registry).add id l).drop id =
      ⟨(true, r), [⟨.debug, .lock, "Released launch lock " ++ l.name⟩]⟩ := by
  have hheld : (n :: r.held).filter (· ≠ n) = r.held := by
    rw [List.filter_cons_of_neg (by simp), List.filter_eq_self]
    intro k hk
    exact decide_eq_true fun hkn => hn (hkn ▸ hk)
  have hrelease : (({ r with held := n :: r.held } : Registry).add id l).releaseLock id l =
      ⟨r.add id { l with state := .unowned, handle := none },
        [⟨.debug, .lock, "Released launch lock " ++ l.name⟩]⟩ := by
    have hgiven : ({ ({ r with held := n :: r.held } : Registry).add id l with
        held := (n :: r.held).filter (· ≠ n) } : Registry) = r.add id l := by
      rw [hheld]
      rfl
    rw [releaseLock, hl, ← put_add h l, ← hgiven]
    rfl
  have hfree : ({ r with held := n :: r.held } : Registry).lock? id = none := h
  rw [drop, release, lock?_add hfree l]
  simp only [hrelease]
  exact congrArg (fun r' => Logged.mk (true, r') _) (erase_add h _)

/-- With enforcement off the claim leaves everything as it is. -/
lemma claimLock_add_off (hhandle : l.handle = none) :
    (r.add id l).claimLock id l false =
      ⟨(.ok .unguarded, r),
        [⟨.warn, .claim, "Single-instance enforcement disabled, skipping launch lock"⟩]⟩ :=
  claimLock_of_drop nofun rfl (drop_add h hhandle)

variable (hown : l.state ≠ .ownedHere)

include hown

/-- If the lock file cannot be opened, the claim fails and leaves everything as it is. -/
lemma claimLock_add_error (hhandle : l.handle = none) {f : Fault}
    (hopen : r.tree.openOrMake l.path = .error f) :
    (r.add id l).claimLock id l true = ⟨(.error ⟨l.name, f.message⟩, r), []⟩ := by
  have hacquire : (r.add id l).acquireLock id l = ⟨(.error ⟨l.name, f.message⟩, r.add id l), []⟩ :=
    acquireLock_of_error hown hopen
  refine claimLock_of_drop nofun ?_ (drop_add h hhandle)
  rw [hacquire, claim_on_error]

variable {n : Nat} {t : Tree} (hopen : r.tree.openOrMake l.path = .ok (n, t))

include hopen

/-- If another lock has the file, the launch is a duplicate and leaves the locks as they are. -/
lemma claimLock_add_held (hhandle : l.handle = none) (hn : n ∈ r.held) :
    (r.add id l).claimLock id l true =
      ⟨(.ok .duplicate, { r with tree := t }),
        [⟨.info, .lock, "Launch lock " ++ l.name ++ " is held by another process"⟩,
          ⟨.info, .claim, "Another instance is already running"⟩]⟩ := by
  have hfree : ({ r with tree := t } : Registry).lock? id = none := h
  have hacquire : (r.add id l).acquireLock id l = _ := acquireLock_of_held hown hopen hn
  have hput : ({ r.add id l with tree := t } : Registry).put id { l with state := .heldByOther } =
      ({ r with tree := t } : Registry).add id { l with state := .heldByOther } :=
    put_add hfree _ _
  rw [hput] at hacquire
  refine claimLock_of_drop nofun ?_
    (drop_add hfree (l := { l with state := .heldByOther }) hhandle)
  rw [hacquire]
  rfl

/-- If nobody has the file, the launch takes it and keeps the lock. -/
lemma claimLock_add_free (hn : n ∉ r.held) :
    (r.add id l).claimLock id l true =
      ⟨(.ok .primary, ({ r with tree := t, held := n :: r.held } : Registry).add id
          { l with state := .ownedHere, handle := some n }),
        [⟨.info, .lock, "Acquired launch lock " ++ l.name⟩]⟩ := by
  have hfree : ({ r with tree := t, held := n :: r.held } : Registry).lock? id = none := h
  have hacquire : (r.add id l).acquireLock id l = _ := acquireLock_of_free hown hopen hn
  have hput : ({ r.add id l with tree := t, held := n :: r.held } : Registry).put id
      { l with state := .ownedHere, handle := some n } =
      ({ r with tree := t, held := n :: r.held } : Registry).add id
        { l with state := .ownedHere, handle := some n } :=
    put_add hfree _ _
  have hadd : ({ r.add id l with tree := t, held := n :: (r.add id l).held } : Registry) =
      { r.add id l with tree := t, held := n :: r.held } := rfl
  rw [hadd, hput] at hacquire
  refine claimLock_of_primary ?_
  rw [hacquire, claim_on_acquired]

end Added

/-- The file of an owner can be opened, and that makes nothing. -/
lemma openOrMake_of_ownedElsewhere (hs : r.Sound) (h : r.OwnedElsewhere id l) :
    ∃ n ∈ r.held, r.tree.openOrMake l.path = .ok (n, r.tree) := by
  obtain ⟨i, l', -, hl', hown, hshare⟩ := h
  obtain ⟨n, -, hfile, hn⟩ := hs.fileAt?_of_shares hl' hown hshare
  exact ⟨n, hn, Tree.openOrMake_of_fileAt? hfile⟩

/-- A file that a new lock would open is locked exactly if another lock owns it. -/
lemma mem_held_iff_of_free (hs : r.Sound) (h : r.lock? id = none) {name : String} {folder : Path}
    {n : Nat} {t : Tree} (hopen : r.tree.openOrMake (Lock.path { name, folder }) = .ok (n, t)) :
    n ∈ r.held ↔ r.OwnedElsewhere id { name, folder } := by
  have hadded : (r.add id { name, folder }).Sound := hs.move (.add name folder h)
  have hheld : n ∈ r.held ↔ (r.add id { name, folder }).OwnedElsewhere id { name, folder } :=
    hadded.mem_held_iff (lock?_add h _) nofun hopen
  -- the new lock is not among the others
  have hother : ∀ i, i ≠ id → (r.add id { name, folder }).lock? i = r.lock? i := by
    intro i hi
    rw [add, lock?_append, if_neg hi, Option.or_none]
  rw [hheld]
  constructor
  · rintro ⟨i, l', hi, hl', hown, hshare⟩
    exact ⟨i, l', hi, hother i hi ▸ hl', hown, hshare⟩
  · rintro ⟨i, l', hi, hl', hown, hshare⟩
    exact ⟨i, l', hi, (hother i hi).trans hl', hown, hshare⟩

end LaunchGuard.Registry
