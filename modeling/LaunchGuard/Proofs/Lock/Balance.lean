/-
# Acquisitions and releases

A lock logs a line when it takes its file, and a line when it gives the file back.  In what one lock
logs, from its creation until it goes away, these lines come in turns, and the last of them tells
whether the lock owns its file.  So the lines of a lock that is gone are balanced, in whichever way
it went: it was dropped, replaced, or lost in a claim.

Lines carry the name of a lock, which several locks may have.  What one lock logs is therefore told
from what the others log by the steps: it is what the steps on its identifier log.
-/
import LaunchGuard.Proofs.Lock.Agreement

namespace LaunchGuard

/-! ### Lines about locks -/

namespace Entry

/-- A lock of the name took its file. -/
def acquired (name : String) : Entry := ⟨.info, .lock, "Acquired launch lock " ++ name⟩

/-- A lock of the name gave its file back. -/
def released (name : String) : Entry := ⟨.debug, .lock, "Released launch lock " ++ name⟩

/-- A lock of the name was refused its file. -/
def refused (name : String) : Entry :=
  ⟨.info, .lock, "Launch lock " ++ name ++ " is held by another process"⟩

/-- The entry comes from a lock, and its text begins with these words. -/
def reports (words : String) (e : Entry) : Bool :=
  e.source = .lock && words.toList.isPrefixOf e.text.toList

lemma reports_acquired (name : String) :
    (acquired name).reports "Acquired launch lock " = true ∧
      (acquired name).reports "Released launch lock " = false := by
  simp [acquired, reports, List.isPrefixOf]

lemma reports_released (name : String) :
    (released name).reports "Acquired launch lock " = false ∧
      (released name).reports "Released launch lock " = true := by
  simp [released, reports, List.isPrefixOf]

lemma reports_refused (name : String) :
    (refused name).reports "Acquired launch lock " = false ∧
      (refused name).reports "Released launch lock " = false := by
  simp [refused, reports, List.isPrefixOf]

lemma reports_of_ne {e : Entry} (he : e.source ≠ .lock) (words : String) :
    e.reports words = false := by
  simp [reports, he]

end Entry

/-- What a lock of a name may log between two moments, by whether it owns its file at either.  It
takes the file only if it does not own it, and gives it back only if it does. -/
inductive Turns (name : String) (before : Bool) : List Entry → Bool → Prop
  | none : Turns name before [] before
  | acquired {log : List Entry} : Turns name before log false →
      Turns name before (log ++ [.acquired name]) true
  | released {log : List Entry} : Turns name before log true →
      Turns name before (log ++ [.released name]) false
  | refused {log : List Entry} : Turns name before log false →
      Turns name before (log ++ [.refused name]) false
  /-- A claim has lines of its own. -/
  | claim {log : List Entry} {after : Bool} {e : Entry} : e.source = .claim →
      Turns name before log after → Turns name before (log ++ [e]) after

namespace Turns

variable {name : String} {a b c : Bool} {log log' : List Entry}

lemma trans (h : Turns name a log b) (h' : Turns name b log' c) : Turns name a (log ++ log') c := by
  induction h' with
  | none => rwa [List.append_nil]
  | acquired _ ih =>
    rw [← List.append_assoc]
    exact .acquired ih
  | released _ ih =>
    rw [← List.append_assoc]
    exact .released ih
  | refused _ ih =>
    rw [← List.append_assoc]
    exact .refused ih
  | claim he _ ih =>
    rw [← List.append_assoc]
    exact .claim he ih

/-- The files that were owned before or taken since are those that were given back or are owned
now. -/
lemma balance (h : Turns name a log b) :
    a.toNat + log.countP (Entry.reports "Acquired launch lock ") =
      log.countP (Entry.reports "Released launch lock ") + b.toNat := by
  induction h with
  | none => rw [List.countP_nil, List.countP_nil, Nat.add_comm]
  | acquired _ ih =>
    obtain ⟨hacquired, hreleased⟩ := Entry.reports_acquired name
    simp only [List.countP_append, List.countP_singleton, hacquired, hreleased, Bool.toNat_true,
      Bool.toNat_false, Bool.false_eq_true, reduceIte] at ih ⊢
    omega
  | released _ ih =>
    obtain ⟨hacquired, hreleased⟩ := Entry.reports_released name
    simp only [List.countP_append, List.countP_singleton, hacquired, hreleased, Bool.toNat_true,
      Bool.toNat_false, Bool.false_eq_true, reduceIte] at ih ⊢
    omega
  | refused _ ih =>
    obtain ⟨hacquired, hreleased⟩ := Entry.reports_refused name
    simp only [List.countP_append, List.countP_singleton, hacquired, hreleased] at ih ⊢
    omega
  | @claim _ _ e he _ ih =>
    have hother : ∀ words, e.reports words = false := Entry.reports_of_ne (by simp [he])
    simp only [List.countP_append, List.countP_singleton, hother] at ih ⊢
    omega

/-- A lock that is new does not own its file. -/
lemma balance_of_new (h : Turns name false log b) :
    log.countP (Entry.reports "Acquired launch lock ") =
      log.countP (Entry.reports "Released launch lock ") + b.toNat := by
  rw [← h.balance, Bool.toNat_false, Nat.zero_add]

end Turns

/-! ### What is logged -/

/-- The event is a step on the identifier. -/
def LockEvent.isOn (id : String) : LockEvent → Bool
  | .step s => s.id = id
  | _ => false

/-- The event creates a lock under the identifier, in place of the one that is there. -/
def LockEvent.creates (id : String) : LockEvent → Bool
  | .step (.create i _ _) => i = id
  | _ => false

namespace Registry

variable {r r' : Registry} {id name : String} {l : Lock}

/-- What an event logs. -/
def entriesOf (r : Registry) : LockEvent → List Entry
  | .step s => (r.perform s).log
  | _ => []

/-- What those of the events log that count. -/
def logOf (counts : LockEvent → Bool) (r : Registry) : List LockEvent → List Entry
  | [] => []
  | e :: es => (if counts e then r.entriesOf e else []) ++ (r.happen e).logOf counts es

/-- The identifier has a lock that owns its file. -/
def owns (r : Registry) (id : String) : Bool := (r.lock? id).any (·.state = .ownedHere)

/-- How many locks own their files. -/
def owners (r : Registry) : Nat := r.locks.countP (·.2.state = .ownedHere)

lemma owns_of_lock? (h : r.lock? id = some l) : r.owns id = decide (l.state = .ownedHere) := by
  rw [owns, h, Option.any_some]

lemma owns_of_none (h : r.lock? id = none) : r.owns id = false := by
  rw [owns, h, Option.any_none]

/-! ### The turns of each step -/

lemma turns_acquireLock (h : r.lock? id = some l) :
    Turns l.name (r.owns id) (r.acquireLock id l).log ((r.acquireLock id l).value.2.owns id) := by
  by_cases hown : l.state = .ownedHere
  · rw [acquireLock_of_owned hown]
    exact .none
  have hbefore : r.owns id = false := by rw [owns_of_lock? h, decide_eq_false hown]
  rcases hopen : r.tree.openOrMake l.path with f | ⟨n, t⟩
  · rw [acquireLock_of_error hown hopen]
    exact .none
  by_cases hn : n ∈ r.held
  · have h' : ({ r with tree := t } : Registry).lock? id = some l := h
    rw [acquireLock_of_held hown hopen hn, hbefore, owns_of_lock? (lock?_put_self h' _)]
    exact .refused .none
  · have h' : ({ r with tree := t, held := n :: r.held } : Registry).lock? id = some l := h
    rw [acquireLock_of_free hown hopen hn, hbefore, owns_of_lock? (lock?_put_self h' _)]
    exact .acquired .none

lemma turns_releaseLock (hc : Consistent r) (h : r.lock? id = some l) :
    Turns l.name (r.owns id) (r.releaseLock id l).log ((r.releaseLock id l).value.owns id) := by
  rw [owns_of_lock? h, owns_of_lock? (lock?_releaseLock h)]
  rcases hh : l.handle with _ | n
  · have hown : l.state ≠ .ownedHere := fun hown => by
      obtain ⟨n, hn⟩ := (hc.owner id l h).1 hown
      exact nomatch hh.symm.trans hn
    rw [releaseLock, hh, decide_eq_false hown]
    exact .none
  · have hown : l.state = .ownedHere := (hc.owner id l h).2 ⟨n, hh⟩
    rw [releaseLock, hh, decide_eq_true hown]
    exact .released .none

section Named

variable (hc : Consistent r) (hname : ∀ l, r.lock? id = some l → l.name = name)

include hc hname

lemma turns_release :
    Turns name (r.owns id) (r.release id).log ((r.release id).value.2.owns id) := by
  rw [release]
  cases h : r.lock? id with
  | none => exact .none
  | some l =>
    rw [← hname l h]
    exact (turns_releaseLock hc h).trans .none

/-- A lock that is dropped is released before. -/
lemma turns_drop : Turns name (r.owns id) (r.drop id).log ((r.drop id).value.2.owns id) := by
  have hreleased : (r.release id).value.2.owns id = false := by
    cases h : (r.release id).value.2.lock? id with
    | none => exact owns_of_none h
    | some l =>
      have hc' : Consistent (r.release id).value.2 := hc.moves (release_moves r id)
      rw [owns_of_lock? h, decide_eq_false]
      intro hown
      obtain ⟨n, hn⟩ := (hc'.owner id l h).1 hown
      exact nomatch (handle_release h).symm.trans hn
  rw [owns_of_none (lock?_drop r id), ← hreleased]
  exact (turns_release hc hname).trans .none

end Named

lemma turns_claimLock (hc : Consistent r) (h : r.lock? id = some l) (enabled : Bool) :
    Turns l.name (r.owns id) (r.claimLock id l enabled).log
      ((r.claimLock id l enabled).value.2.owns id) := by
  cases enabled with
  | false =>
    have hdrop : Turns l.name (r.owns id) (r.drop id).log ((r.drop id).value.2.owns id) :=
      turns_drop hc fun l' hl' => by cases h.symm.trans hl'; rfl
    exact (Turns.claim rfl .none).trans (hdrop.trans .none)
  | true =>
    have hends := acquireLock_ends r id l
    have hturns := turns_acquireLock h
    rcases hacquire : r.acquireLock id l with ⟨⟨answer, r₁⟩, log⟩
    rw [hacquire] at hends hturns
    have hdrop : Turns l.name (r₁.owns id) (r₁.drop id).log ((r₁.drop id).value.2.owns id) :=
      turns_drop (hc.moves (hends.moves h)) fun l₁ hl₁ => (hends.lock? h hl₁).1
    rcases answer with f | _ | _
    · rw [claimLock, hacquire, claim_on_error]
      exact hturns.trans (hdrop.trans .none)
    · rw [claimLock, hacquire, claim_on_acquired]
      exact hturns.trans .none
    · rw [claimLock, hacquire, claim_on_held]
      exact (Turns.claim rfl hturns).trans (hdrop.trans .none)

/-- **A step and its turns.**  What a step logs is a turn of the lock that it is about, or nothing. -/
lemma turns_perform (hc : Consistent r) {s : LockStep}
    (hname : ∀ l, r.lock? s.id = some l → l.name = name) :
    Turns name (r.owns s.id) (r.perform s).log ((r.perform s).value.2.owns s.id) := by
  cases s with
  | create id name' folder =>
    have hdrop := turns_drop hc hname
    have hgone : (r.drop id).value.2.owns id = false := owns_of_none (lock?_drop r id)
    have hnew : (r.create id name' folder).value.owns id = false :=
      owns_of_lock? (lock?_create r id name' folder)
    rw [LockStep.id, hgone, ← hnew] at hdrop
    exact (hdrop.trans .none).trans .none
  | acquire id =>
    change ∀ l, r.lock? id = some l → l.name = name at hname
    rw [perform, acquire, LockStep.id]
    cases h : r.lock? id with
    | none => exact .none
    | some l =>
      rw [← hname l h]
      exact ((turns_acquireLock h).trans .none).trans .none
  | release id => exact (turns_release hc hname).trans .none
  | drop id => exact (turns_drop hc hname).trans .none
  | claim id enabled =>
    change ∀ l, r.lock? id = some l → l.name = name at hname
    rw [perform, claim, LockStep.id]
    cases h : r.lock? id with
    | none => exact .none
    | some l =>
      rw [← hname l h]
      exact ((turns_claimLock hc h enabled).trans .none).trans .none

/-! ### The turns of a run -/

section Run

variable {folder : Path} {e : LockEvent} {es : List LockEvent}

lemma after_append (r : Registry) (es es' : List LockEvent) :
    r.after (es ++ es') = (r.after es).after es' := by
  induction es generalizing r with
  | nil => rfl
  | cons e es ih => exact ih (r.happen e)

lemma exists_step_of_isOn (h : e.isOn id = true) : ∃ s, e = .step s ∧ s.id = id := by
  cases e with
  | step s => exact ⟨s, rfl, of_decide_eq_true h⟩
  | _ => cases h

/-- Changes of the files leave the locks alone. -/
lemma locks_happen (h : ∀ s, e ≠ .step s) : (r.happen e).locks = r.locks := by
  cases e with
  | step s => exact absurd rfl (h s)
  | makeFolders p => rfl
  | write p content =>
    rw [happen]
    cases r.tree.write p content <;> rfl
  | remove p =>
    rw [happen]
    cases r.tree.remove p <;> rfl

/-- So do steps on other locks. -/
lemma lock?_happen (h : e.isOn id = false) : (r.happen e).lock? id = r.lock? id := by
  cases e with
  | step s => exact (perform_moves r s).lock?_of_ne (Ne.symm (of_decide_eq_false h))
  | _ => rw [lock?, locks_happen (by simp), lock?]

/-- A lock keeps its name and its folder until another one is created in its place. -/
lemma named_happen (hnamed : ∀ l, r.lock? id = some l → l.name = name ∧ l.folder = folder)
    (he : e.creates id = false) :
    ∀ l, (r.happen e).lock? id = some l → l.name = name ∧ l.folder = folder := by
  intro l' hl'
  cases hon : e.isOn id with
  | false => exact hnamed l' (lock?_happen hon ▸ hl')
  | true =>
    obtain ⟨s, rfl, rfl⟩ := exists_step_of_isOn hon
    obtain ⟨l, hl, hname, hfolder⟩ | ⟨_, _, _, rfl, -⟩ := lock?_perform hl'
    · rw [hname, hfolder]
      exact hnamed l hl
    · exact absurd rfl (of_decide_eq_false he)

lemma turns_happen (hc : Consistent r) (hname : ∀ l, r.lock? id = some l → l.name = name)
    (e : LockEvent) : Turns name (r.owns id) (if e.isOn id then r.entriesOf e else [])
      ((r.happen e).owns id) := by
  cases hon : e.isOn id with
  | false =>
    rw [owns, owns, lock?_happen hon]
    exact .none
  | true =>
    obtain ⟨s, rfl, rfl⟩ := exists_step_of_isOn hon
    exact turns_perform hc hname

/-- **A run and its turns.**  As long as no other lock is created in its place, all that a lock logs
is turns. -/
lemma turns_logOf (hc : Consistent r)
    (hnamed : ∀ l, r.lock? id = some l → l.name = name ∧ l.folder = folder)
    (hes : ∀ e ∈ es, e.creates id = false) :
    Turns name (r.owns id) (r.logOf (·.isOn id) es) ((r.after es).owns id) ∧
      ∀ l, (r.after es).lock? id = some l → l.name = name ∧ l.folder = folder := by
  induction es generalizing r with
  | nil => exact ⟨.none, hnamed⟩
  | cons e es ih =>
    have hturn := turns_happen hc (fun l hl => (hnamed l hl).1) e
    obtain ⟨hrest, hend⟩ := ih (hc.happen e) (named_happen hnamed (hes e (.head es)))
      fun e' he' => hes e' (.tail e he')
    exact ⟨hturn.trans hrest, hend⟩

/-- What a lock logs from its creation on. -/
lemma turns_since (hc : Consistent r) (id name : String) (folder : Path)
    (hes : ∀ e ∈ es, e.creates id = false) :
    let created := r.happen (.step (.create id name folder))
    Turns name false (created.logOf (·.isOn id) es) ((created.after es).owns id) ∧
      ∀ l, (created.after es).lock? id = some l → l.name = name ∧ l.folder = folder := by
  intro created
  have hnew : created.lock? id = some { name, folder } := lock?_create r id name folder
  have hunowned : created.owns id = false := owns_of_lock? hnew
  rw [← hunowned]
  refine turns_logOf (hc.happen _) (fun l hl => ?_) hes
  cases hnew.symm.trans hl
  exact ⟨rfl, rfl⟩

/-- A lock in whose place another one is created gives back what it owns. -/
lemma turns_replaced (hc : Consistent r) (hname : ∀ l, r.lock? id = some l → l.name = name)
    (name' : String) (folder' : Path) :
    Turns name (r.owns id) (r.perform (.create id name' folder')).log false := by
  have hnew : (r.perform (.create id name' folder')).value.2.owns id = false :=
    owns_of_lock? (lock?_create r id name' folder')
  rw [← hnew]
  exact turns_perform hc (s := .create id name' folder') hname

/-! ### The balance of all locks -/

/-- If only one lock changes, the number of owners changes with it. -/
lemma owners_frame (hc : Consistent r) (hc' : Consistent r')
    (h : ∀ i, i ≠ id → r'.lock? i = r.lock? i) :
    (r.owns id).toNat + r'.owners = r.owners + (r'.owns id).toNat := by
  have hothers : (r'.locks.filter (·.1 ≠ id)).Perm (r.locks.filter (·.1 ≠ id)) := by
    refine perm_of_lookup_eq (hc'.distinct.sublist (List.filter_sublist.map _))
      (hc.distinct.sublist (List.filter_sublist.map _)) fun i => ?_
    rw [lookup_remove, lookup_remove]
    split
    · rfl
    · next hi => exact h i hi
  have hcount := hothers.countP_eq (·.2.state = .ownedHere)
  have hold := countP_eq_add_lookup hc.distinct (·.state = .ownedHere) id
  have hnew := countP_eq_add_lookup hc'.distinct (·.state = .ownedHere) id
  rw [owners, owners, hold, hnew, hcount, owns, owns, lock?, lock?]
  omega

lemma balance_happen (hc : Consistent r) (e : LockEvent) :
    r.owners + (r.entriesOf e).countP (Entry.reports "Acquired launch lock ") =
      (r.entriesOf e).countP (Entry.reports "Released launch lock ") + (r.happen e).owners := by
  cases e with
  | step s =>
    obtain ⟨name, hname⟩ : ∃ name, ∀ l, r.lock? s.id = some l → l.name = name := by
      cases h : r.lock? s.id with
      | none => exact ⟨"", nofun⟩
      | some l => exact ⟨l.name, fun l' hl' => congrArg Lock.name (Option.some.inj hl').symm⟩
    have hturns := (turns_perform hc hname).balance
    have hframe := owners_frame hc (hc.happen (.step s)) fun i hi =>
      (perform_moves r s).lock?_of_ne hi
    simp only [entriesOf, happen] at hframe ⊢
    omega
  | _ => simp [entriesOf, owners, locks_happen]

lemma balance_logOf (hc : Consistent r) (es : List LockEvent) :
    let log := r.logOf (fun _ => true) es
    r.owners + log.countP (Entry.reports "Acquired launch lock ") =
      log.countP (Entry.reports "Released launch lock ") + (r.after es).owners := by
  induction es generalizing r with
  | nil => simp [logOf, after]
  | cons e es ih =>
    have hhappen := balance_happen hc e
    have hrest := ih (hc.happen e)
    simp only [logOf, after, List.countP_append, if_true] at hrest ⊢
    omega

end Run

/-! ### What may be repeated -/

lemma acquire_again (h : r.lock? id = some l) (hown : l.state = .ownedHere) :
    r.perform (.acquire id) = ⟨(.acquisition (.ok .acquired), r), []⟩ := by
  rw [perform, acquire, h]
  simp only [acquireLock_of_owned hown]
  rfl

lemma release_of_none (h : r.lock? id = none) :
    r.perform (.release id) = ⟨(.noLock, r), []⟩ := by
  rw [perform, release, h]
  rfl

lemma release_of_not_owned (hc : Consistent r) (h : r.lock? id = some l)
    (hown : l.state ≠ .ownedHere) :
    r.perform (.release id) = ⟨(.released, r.put id { l with state := .unowned }), []⟩ := by
  rw [perform, release, h]
  simp only [releaseLock, hc.handle_eq_none h hown]
  rfl

/-- After a release there is nothing left to release. -/
lemma release_again (hc : Consistent r) (id : String) :
    (r.perform (.release id)).value.2.perform (.release id) =
      ⟨(r.perform (.release id)).value, []⟩ := by
  cases h : r.lock? id with
  | none => rw [release_of_none h, release_of_none h]
  | some l =>
    have honce : (r.perform (.release id)).value = (.released, (r.releaseLock id l).value) := by
      rw [perform, release, h]
      rfl
    have hc' : Consistent (r.releaseLock id l).value := hc.moves (releaseLock_moves h)
    have hreleased := lock?_releaseLock h
    have hput := replace_self hc'.distinct hreleased
    rw [honce, release_of_not_owned hc' hreleased (by simp), put, hput]

/-- **Acquisitions and releases balance.**  After any run of lock steps, with the files changing in
any way, exactly the locks that own their files have a file open.  Take a lock from its creation on,
as long as no other one is created in its place.  All it logs is turns: it logs that it acquired its
file when it did not own it, and that it released it when it did.  So it has logged one acquisition
more than releases while it owns its file, and equally many otherwise, be it that it is still there
or that it is gone; if another lock is created in its place, they are equally many too.

A lock that owns its file acquires it again without a line or a change, a lock that owns none is
released without a line, and the second release of two changes nothing.  Among all lines, the
acquisitions are more than the releases by the number of locks that own their files; if no lock is
left, they are equally many. -/
theorem acquisitions_balance (es : List LockEvent) :
    let r := ({} : Registry).after es
    let acquired := Entry.reports "Acquired launch lock "
    let released := Entry.reports "Released launch lock "
    (∀ id l, r.lock? id = some l → (l.state = .ownedHere ↔ ∃ n, l.handle = some n)) ∧
    (∀ before id name folder since, es = before ++ .step (.create id name folder) :: since →
      (∀ e ∈ since, e.creates id = false) →
      let created := (({} : Registry).after before).happen (.step (.create id name folder))
      let lines := created.logOf (·.isOn id) since;
      (∀ l, r.lock? id = some l → l.name = name ∧ l.folder = folder) ∧
      Turns name false lines (r.owns id) ∧
      lines.countP acquired = lines.countP released + (r.owns id).toNat ∧
      ∀ name' folder',
        let all := lines ++ (r.perform (.create id name' folder')).log;
        Turns name false all false ∧ all.countP acquired = all.countP released) ∧
    (∀ id l, r.lock? id = some l → l.state = .ownedHere →
      r.perform (.acquire id) = ⟨(.acquisition (.ok .acquired), r), []⟩) ∧
    (∀ id l, r.lock? id = some l → l.state ≠ .ownedHere →
      r.perform (.release id) = ⟨(.released, r.put id { l with state := .unowned }), []⟩) ∧
    (∀ id, (r.perform (.release id)).value.2.perform (.release id) =
      ⟨(r.perform (.release id)).value, []⟩) ∧
    let lines := ({} : Registry).logOf (fun _ => true) es
    lines.countP acquired = lines.countP released + r.owners ∧
      (r.locks = [] → lines.countP acquired = lines.countP released) := by
  intro r acquired released
  have hc : Consistent r := Consistent.start.after es
  refine ⟨hc.owner, ?_, fun id l h hown => acquire_again h hown,
    fun id l h hown => release_of_not_owned hc h hown, release_again hc, ?_⟩
  · intro before id name folder since hes hsince created lines
    have hr : r = created.after since := by
      rw [show r = ({} : Registry).after es from rfl, hes, after_append]
      rfl
    obtain ⟨hturns, hnamed⟩ : Turns name false lines ((created.after since).owns id) ∧
        ∀ l, (created.after since).lock? id = some l → l.name = name ∧ l.folder = folder :=
      turns_since (Consistent.start.after before) id name folder hsince
    rw [← hr] at hturns hnamed
    refine ⟨hnamed, hturns, hturns.balance_of_new, fun name' folder' => ?_⟩
    have hall := hturns.trans (turns_replaced hc (fun l hl => (hnamed l hl).1) name' folder')
    exact ⟨hall, hall.balance_of_new⟩
  · intro lines
    have hbalance : ({} : Registry).owners + lines.countP acquired =
        lines.countP released + r.owners := balance_logOf Consistent.start es
    have hstart : ({} : Registry).owners = 0 := rfl
    rw [hstart, Nat.zero_add] at hbalance
    refine ⟨hbalance, fun hgone => ?_⟩
    rw [hbalance, owners, hgone, List.countP_nil, Nat.add_zero]

-- a lock that is lost in a claim gives its file back
example :
    let es : List LockEvent := [.makeFolders ⟨"a"⟩, .step (.create "x" "n" ⟨"a"⟩),
      .step (.acquire "x"), .step (.acquire "x"), .step (.claim "x" false), .step (.release "x")]
    ({} : Registry).logOf (fun _ => true) es = [.acquired "n",
      ⟨.warn, .claim, "Single-instance enforcement disabled, skipping launch lock"⟩,
      .released "n"] := by
  decide +kernel

end Registry

end LaunchGuard
