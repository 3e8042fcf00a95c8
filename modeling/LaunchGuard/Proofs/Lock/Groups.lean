/-
# Groups of locks

Some locks are looked at as a group: what they are told, what they log and in which states they are,
while steps of other locks come between.  Of the registry a group needs its own locks only, and not
even the numbers of the files that they have open; this is its *face*.  Of the files it needs to
know what is missing on the paths to its lock files.

Two registries that are alike in this answer a step of the group alike and are alike after it.  A
step of another lock leaves a registry like the one before, as long as the file that it may make is
apart from the paths of the group.
-/
import LaunchGuard.Proofs.Lock.Exclusion
import LaunchGuard.Proofs.Lock.FilesMade

namespace LaunchGuard

/-- The lock without the number of the file that it has open. -/
def Lock.unnumbered (l : Lock) : Lock := { l with handle := l.handle.map fun _ => 0 }

lemma Lock.eq_of_unnumbered_eq {l l' : Lock} (h : l.unnumbered = l'.unnumbered) :
    l.name = l'.name ∧ l.state = l'.state ∧ l.path = l'.path := by
  have hname := congrArg Lock.name h
  have hstate := congrArg Lock.state h
  have hpath := congrArg Lock.path h
  exact ⟨hname, hstate, hpath⟩

/-- The path of the lock file of the lock that a step creates. -/
def LockStep.path? : LockStep → Option Path
  | .create _ name folder => some (Lock.path { name, folder })
  | _ => none

namespace Registry

variable {r r' : Registry} {id : String} {l l' : Lock} {group : String → Bool}

/-- After a step its lock has the path that it had before, or that with which it was created. -/
lemma path_perform {s : LockStep} (h : (r.perform s).value.2.lock? s.id = some l') :
    (∃ l, r.lock? s.id = some l ∧ l'.path = l.path) ∨ s.path? = some l'.path := by
  obtain ⟨l, hl, hname, hfolder⟩ | ⟨id, name, folder, rfl, rfl⟩ := lock?_perform h
  · exact .inl ⟨l, hl, by rw [Lock.path, Lock.path, hname, hfolder]⟩
  · exact .inr rfl

/-! ### The face of a registry -/

/-- The locks of a group, in their order, without the numbers of the files that they have open. -/
def face (group : String → Bool) (r : Registry) : List (String × Lock) :=
  (r.locks.filter (group ·.1)).map fun e => (e.1, e.2.unnumbered)

/-- The states of the locks of a group. -/
def statesOf (group : String → Bool) (r : Registry) : List (String × Ownership) :=
  r.states.filter (group ·.1)

lemma statesOf_eq_face (group : String → Bool) (r : Registry) :
    r.statesOf group = (r.face group).map fun e => (e.1, e.2.state) := by
  rw [statesOf, states, face, List.filter_map, List.map_map]
  rfl

lemma group_of_mem_face {e : String × Lock} (h : e ∈ r.face group) : group e.1 = true := by
  obtain ⟨d, hd, rfl⟩ := List.mem_map.1 h
  exact (List.mem_filter.1 hd).2

lemma lookup_face (hid : group id = true) :
    (r.face group).lookup id = (r.lock? id).map Lock.unnumbered := by
  rw [face, lock?]
  induction r.locks with
  | nil => rfl
  | cons e locks ih =>
    obtain ⟨i, l⟩ := e
    by_cases hi : id = i
    · subst hi
      rw [List.filter_cons_of_pos (by simpa using hid), List.map_cons, List.lookup_cons_self,
        List.lookup_cons_self, Option.map_some]
    · rw [lookup_cons_of_ne hi, ← ih]
      by_cases hgroup : group i = true
      · rw [List.filter_cons_of_pos (by simpa using hgroup), List.map_cons, lookup_cons_of_ne hi]
      · rw [List.filter_cons_of_neg (by simpa using hgroup)]

lemma face_put (r : Registry) (id : String) (l : Lock) :
    (r.put id l).face group =
      (r.face group).map fun e => if e.1 = id then (id, l.unnumbered) else e := by
  have hkey : ∀ e : String × Lock, (if e.1 = id then (id, l) else e).1 = e.1 := by
    intro e
    split
    · next he => exact he.symm
    · rfl
  rw [face, face, put, List.filter_map, List.map_map, List.map_map]
  have hfilter : ((fun e : String × Lock => group e.1) ∘ fun e => if e.1 = id then (id, l) else e) =
      fun e => group e.1 := funext fun e => congrArg group (hkey e)
  rw [hfilter]
  refine List.map_congr_left fun e _ => ?_
  simp only [Function.comp_apply]
  split <;> rfl

lemma face_erase (r : Registry) (id : String) :
    (r.erase id).face group = (r.face group).filter (·.1 ≠ id) := by
  rw [face, face, erase, List.filter_map, List.filter_filter, List.filter_filter]
  refine congrArg _ (List.filter_congr fun e _ => ?_)
  exact Bool.and_comm _ _

lemma face_append (r : Registry) (id : String) (l : Lock) :
    ({ r with locks := r.locks ++ [(id, l)] } : Registry).face group =
      r.face group ++ if group id = true then [(id, l.unnumbered)] else [] := by
  rw [face, face, List.filter_append, List.map_append]
  cases hid : group id <;> simp [hid]

/-- What happens to a lock outside the group does not show in the face. -/
lemma face_move (h : Move id r r') (hid : group id = false) : r'.face group = r.face group := by
  have hne : ∀ e ∈ r.face group, e.1 ≠ id := by
    rintro e he rfl
    exact Bool.false_ne_true (hid.symm.trans (group_of_mem_face he))
  have hput : ∀ {r₁ : Registry} (l : Lock), r₁.face group = r.face group →
      (r₁.put id l).face group = r.face group := by
    intro r₁ l hsame
    rw [face_put, hsame]
    refine (List.map_congr_left fun e he => ?_).trans (List.map_id _)
    exact if_neg (hne e he)
  cases h with
  | refuse => exact hput _ rfl
  | take => exact hput _ rfl
  | give => exact hput _ rfl
  | forget => exact hput _ rfl
  | erase =>
    rw [face_erase]
    exact List.filter_eq_self.2 fun e he => by simpa using hne e he
  | add name folder =>
    rw [face_append, hid]
    exact List.append_nil _

lemma face_moves (h : Moves id r r') (hid : group id = false) : r'.face group = r.face group := by
  induction h with
  | refl => rfl
  | tail _ hmove ih => rw [face_move hmove hid, ih]

/-! ### Registries that are alike -/

section Alike

variable {t₀ t : Tree} {paths : String → Path → Prop}

/-- The registry has come from locks with these paths on the files of `t₀`. -/
structure Placed (t₀ : Tree) (paths : String → Path → Prop) (r : Registry) : Prop where
  sound : r.Sound
  counted : r.tree.Counted
  grown : t₀.AddsFiles r.tree
  along : ∀ id l, r.lock? id = some l → paths id l.path

/-- To a group whose locks have these paths, two registries look the same. -/
structure Alike (t₀ : Tree) (group : String → Bool) (paths : String → Path → Prop)
    (r r' : Registry) : Prop where
  face : r.face group = r'.face group
  tree : ∀ id p, group id = true → paths id p → t₀.AgreeOn p r.tree r'.tree

/-- The results are the same, so is what was logged, and the registries look the same. -/
def Lockstep {α : Type} (t₀ : Tree) (group : String → Bool) (paths : String → Path → Prop)
    (x y : Logged (α × Registry)) : Prop :=
  x.value.1 = y.value.1 ∧ x.log = y.log ∧ Alike t₀ group paths x.value.2 y.value.2

lemma Lockstep.bind {α β : Type} {x y : Logged (α × Registry)}
    {f g : α × Registry → Logged (β × Registry)} (h : Lockstep t₀ group paths x y)
    (hfg : ∀ a r r', Alike t₀ group paths r r' → Lockstep t₀ group paths (f (a, r)) (g (a, r'))) :
    Lockstep t₀ group paths (x >>= f) (y >>= g) := by
  obtain ⟨hvalue, hlog, halike⟩ := h
  obtain ⟨hvalue', hlog', halike'⟩ := hfg x.value.1 _ _ halike
  rw [show (x.value.1, y.value.2) = y.value from Prod.ext hvalue rfl] at hvalue' hlog' halike'
  exact ⟨hvalue', by rw [Logged.bind_log, Logged.bind_log, hlog, hlog'], halike'⟩

namespace Alike

lemma refl (r : Registry) : Alike t₀ group paths r r := ⟨rfl, fun _ _ _ _ _ _ => Iff.rfl⟩

/-- Both have a lock of the group, or neither has. -/
lemma lock? (h : Alike t₀ group paths r r') (hid : group id = true) :
    r.lock? id = none ∧ r'.lock? id = none ∨
      ∃ l l', r.lock? id = some l ∧ r'.lock? id = some l' ∧ l.unnumbered = l'.unnumbered := by
  have hlookup : (r.lock? id).map Lock.unnumbered = (r'.lock? id).map Lock.unnumbered := by
    rw [← lookup_face hid, ← lookup_face hid, h.face]
  cases hl : r.lock? id with
  | none =>
    rw [hl] at hlookup
    exact .inl ⟨rfl, Option.map_eq_none_iff.1 hlookup.symm⟩
  | some l =>
    rw [hl] at hlookup
    obtain ⟨l', hl', heq⟩ := Option.map_eq_some_iff.1 hlookup.symm
    exact .inr ⟨l, l', rfl, hl', heq.symm⟩

/-- Changes that do not open a file matter only to the face. -/
lemma of_face (h : Alike t₀ group paths r r') {r₁ r₁' : Registry} (htree : r₁.tree = r.tree)
    (htree' : r₁'.tree = r'.tree) (hface : r₁.face group = r₁'.face group) :
    Alike t₀ group paths r₁ r₁' where
  face := hface
  tree := by
    rw [htree, htree']
    exact h.tree

lemma releaseLock (h : Alike t₀ group paths r r') (id : String)
    (heq : l.unnumbered = l'.unnumbered) :
    (r.releaseLock id l).log = (r'.releaseLock id l').log ∧
      Alike t₀ group paths (r.releaseLock id l).value (r'.releaseLock id l').value := by
  obtain ⟨name, folder, state, handle⟩ := l
  obtain ⟨name', folder', state', handle'⟩ := l'
  cases heq' : handle <;> cases heq'' : handle' <;> subst heq' heq'' <;> cases heq
  · refine ⟨rfl, h.of_face rfl rfl ?_⟩
    show (r.put _ _).face group = (r'.put _ _).face group
    rw [face_put, face_put, h.face]
  · refine ⟨rfl, h.of_face rfl rfl ?_⟩
    show ({ r with held := _ }.put _ _).face group = ({ r' with held := _ }.put _ _).face group
    rw [face_put, face_put]
    exact congrArg _ h.face

lemma release (h : Alike t₀ group paths r r') (hid : group id = true) :
    Lockstep t₀ group paths (r.release id) (r'.release id) := by
  rw [Registry.release, Registry.release]
  rcases h.lock? hid with ⟨hl, hl'⟩ | ⟨l, l', hl, hl', heq⟩
  · rw [hl, hl']
    exact ⟨rfl, rfl, h⟩
  · rw [hl, hl']
    obtain ⟨hlog, halike⟩ := h.releaseLock id heq
    exact ⟨rfl, congrArg (· ++ []) hlog, halike⟩

lemma drop (h : Alike t₀ group paths r r') (hid : group id = true) :
    Lockstep t₀ group paths (r.drop id) (r'.drop id) := by
  refine (h.release hid).bind fun found r₁ r₁' h₁ => ⟨rfl, rfl, h₁.of_face rfl rfl ?_⟩
  show (r₁.erase id).face group = (r₁'.erase id).face group
  rw [face_erase, face_erase, h₁.face]

/-- Both registries open the same path, and then agree as before on what is missing. -/
lemma openOrMake (h : Alike t₀ group paths r r') (hr : Placed t₀ paths r)
    (hr' : Placed t₀ paths r') {p : Path} {n n' : Nat} {t t' : Tree}
    (hopen : r.tree.openOrMake p = .ok (n, t)) (hopen' : r'.tree.openOrMake p = .ok (n', t'))
    {i : String} {q : Path} (hi : group i = true) (hq : paths i q) : t₀.AgreeOn q t t' := by
  intro place hplace
  obtain ⟨made, hmade, -⟩ := Tree.openOrMake_eq_ok_iff.1 hopen
  have hmade' : r'.tree.filePlace? p = some made := by
    rw [hr'.grown.filePlace?_eq, ← hr.grown.filePlace?_eq, hmade]
  rw [Tree.find?_openOrMake_eq_none hopen hmade, Tree.find?_openOrMake_eq_none hopen' hmade',
    h.tree i q hi hq place hplace]

end Alike

/-! ### Opening a lock file in both -/

section Apart

variable (hapart : ∀ id id' p p', group id = true → group id' = false → paths id p →
  paths id' p' → t₀.Apart p p')

include hapart

/-- Whether the file of a lock is locked shows in the face: the owner is in the group. -/
lemma Placed.mem_held_iff (hr : Placed t₀ paths r) (hl : r.lock? id = some l)
    (hid : group id = true) {n : Nat} (hopen : r.tree.openOrMake l.path = .ok (n, t)) :
    n ∈ r.held ↔ ∃ e ∈ r.face group, e.2.state = .ownedHere ∧
      t₀.filePlace? e.2.path = t₀.filePlace? l.path := by
  obtain ⟨place, hplace, hfound⟩ := Tree.openOrMake_eq_ok_iff.1 hopen
  rw [← hr.grown.filePlace?_eq (p := l.path), hplace]
  constructor
  · intro hn
    obtain ⟨id', hhandle⟩ := (hr.sound.locked n).1 hn
    obtain ⟨l', hl', hn'⟩ := handle?_eq_some_iff.1 hhandle
    have hown := (hr.sound.owner id' l' hl').2 ⟨n, hn'⟩
    have hfile := hr.sound.opened id' l' n hl' hn'
    obtain ⟨place', c, hplace', hfind⟩ := Tree.exists_place_of_fileAt? hfile
    -- the owner has the file open that was found, for a new one would have a new number
    have hsame : place' = place := by
      rcases hfound with ⟨⟨c', hfind'⟩, -⟩ | ⟨-, hnext, -⟩
      · exact hr.counted.single place' place n c c' hfind hfind'
      · exact absurd (hr.counted.numbered place' n c hfind) (by omega)
    rw [hr.grown.filePlace?_eq, hsame] at hplace'
    have hid' : group id' = true := by
      refine Bool.of_not_eq_false fun hnot => ?_
      have hap := hapart id id' l.path l'.path hid hnot (hr.along id l hl)
        (hr.along id' l' hl') place hplace'
      rw [hr.grown.filePlace?_eq] at hplace
      exact hap.1 hplace
    have hmem : (id', l'.unnumbered) ∈ r.face group :=
      List.mem_map.2 ⟨(id', l'), List.mem_filter.2
        ⟨(lookup_eq_some_iff_mem hr.sound.distinct).1 hl', hid'⟩, rfl⟩
    exact ⟨_, hmem, hown, hplace'⟩
  · rintro ⟨e, he, hown, hplace'⟩
    obtain ⟨⟨id', l'⟩, hmem, rfl⟩ := List.mem_map.1 he
    have hl' : r.lock? id' = some l' :=
      (lookup_eq_some_iff_mem hr.sound.distinct).2 (List.mem_filter.1 hmem).1
    obtain ⟨n', -, hfile, hheld⟩ := hr.sound.exists_handle hl' hown
    obtain ⟨place', c, hplace'', hfind⟩ := Tree.exists_place_of_fileAt? hfile
    have hsame : place' = place := by
      rw [hr.grown.filePlace?_eq] at hplace''
      exact Option.some.inj (hplace''.symm.trans hplace')
    rw [hsame] at hfind
    rcases hfound with ⟨⟨c', hfind'⟩, -⟩ | ⟨hnone, -⟩
    · cases hfind.symm.trans hfind'
      exact hheld
    · exact nomatch hfind.symm.trans hnone

namespace Alike

/-- A lock of the group is acquired, refused or fails alike. -/
lemma acquireLock (h : Alike t₀ group paths r r') (hr : Placed t₀ paths r)
    (hr' : Placed t₀ paths r') (hid : group id = true) (hl : r.lock? id = some l)
    (hl' : r'.lock? id = some l') (heq : l.unnumbered = l'.unnumbered) :
    Lockstep t₀ group paths (r.acquireLock id l) (r'.acquireLock id l') := by
  obtain ⟨hname, hstate, hpath⟩ := Lock.eq_of_unnumbered_eq heq
  by_cases hown : l.state = .ownedHere
  · rw [acquireLock_of_owned hown, acquireLock_of_owned (hstate ▸ hown)]
    exact ⟨rfl, rfl, h⟩
  have hown' : l'.state ≠ .ownedHere := hstate ▸ hown
  have hopens := Tree.openOrMake_alike hr.grown hr'.grown
    (h.tree id l.path hid (hr.along id l hl))
  rcases hopen : r.tree.openOrMake l.path with f | ⟨n, t⟩ <;>
    rcases hopen' : r'.tree.openOrMake l'.path with f' | ⟨n', t'⟩ <;>
    rw [hopen, hpath, hopen'] at hopens <;> cases hopens
  · rw [acquireLock_of_error hown hopen, acquireLock_of_error hown' hopen', hname]
    exact ⟨rfl, rfl, h⟩
  · have hsame : r'.tree.openOrMake l.path = .ok (n', t') := by rw [hpath, hopen']
    have htree : ∀ i q, group i = true → paths i q → t₀.AgreeOn q t t' :=
      fun i q hi hq => h.openOrMake hr hr' hopen hsame hi hq
    have hheld : n ∈ r.held ↔ n' ∈ r'.held := by
      rw [hr.mem_held_iff hapart hl hid hopen, hr'.mem_held_iff hapart hl' hid hopen', h.face,
        hpath]
    -- in both the lock is replaced by the same one, but for the number
    have hput : ∀ (k k' : Lock), k.unnumbered = k'.unnumbered → ∀ held held' : List Nat,
        Alike t₀ group paths ({ r with tree := t, held := held }.put id k)
          ({ r' with tree := t', held := held' }.put id k') := by
      intro k k' hk held held'
      refine ⟨?_, htree⟩
      rw [face_put, face_put, hk]
      exact congrArg _ h.face
    by_cases hn : n ∈ r.held
    · rw [acquireLock_of_held hown hopen hn, acquireLock_of_held hown' hopen' (hheld.1 hn)]
      have hmarked := congrArg (fun k : Lock => { k with state := .heldByOther }) heq
      exact ⟨rfl, by rw [hname], hput { l with state := .heldByOther }
        { l' with state := .heldByOther } hmarked r.held r'.held⟩
    · rw [acquireLock_of_free hown hopen hn,
        acquireLock_of_free hown' hopen' fun hn' => hn (hheld.2 hn')]
      have hmarked := congrArg (fun k : Lock => { k with state := .ownedHere, handle := some 0 }) heq
      exact ⟨rfl, by rw [hname], hput { l with state := .ownedHere, handle := some n }
        { l' with state := .ownedHere, handle := some n' } hmarked (n :: r.held) (n' :: r'.held)⟩

/-- A claim with a lock of the group comes to the same. -/
lemma claimLock (h : Alike t₀ group paths r r') (hr : Placed t₀ paths r)
    (hr' : Placed t₀ paths r') (hid : group id = true) (hl : r.lock? id = some l)
    (hl' : r'.lock? id = some l') (heq : l.unnumbered = l'.unnumbered) (enabled : Bool) :
    Lockstep t₀ group paths (r.claimLock id l enabled) (r'.claimLock id l' enabled) := by
  have hclaim : Lockstep t₀ group paths (LaunchGuard.claim enabled r (r.acquireLock id l))
      (LaunchGuard.claim enabled r' (r'.acquireLock id l')) := by
    cases enabled with
    | false => exact ⟨rfl, rfl, h⟩
    | true =>
      refine (h.acquireLock hapart hr hr' hid hl hl' heq).bind fun answer r₁ r₁' h₁ => ?_
      rcases answer with f | _ | _
      · exact ⟨rfl, rfl, h₁⟩
      · exact ⟨rfl, rfl, h₁⟩
      · exact ⟨rfl, rfl, h₁⟩
  refine hclaim.bind fun role r₁ r₁' h₁ => ?_
  have hdrop : ∀ result : Except LockFault Role,
      Lockstep t₀ group paths (r₁.drop id >>= fun dropped => pure (result, dropped.2))
        (r₁'.drop id >>= fun dropped => pure (result, dropped.2)) := fun result =>
    (h₁.drop hid).bind fun _ r₂ r₂' h₂ => ⟨rfl, rfl, h₂⟩
  rcases role with f | _ | _ | _
  · exact hdrop _
  · exact ⟨rfl, rfl, h₁⟩
  · exact hdrop _
  · exact hdrop _

/-- **Steps of the group.**  Two registries that look the same to a group answer a step of it in the
same way, log the same, and look the same afterwards. -/
lemma perform (h : Alike t₀ group paths r r') (hr : Placed t₀ paths r)
    (hr' : Placed t₀ paths r') {s : LockStep} (hid : group s.id = true) :
    Lockstep t₀ group paths (r.perform s) (r'.perform s) := by
  cases s with
  | create id name folder =>
    change group id = true at hid
    obtain ⟨-, hlog, h₁⟩ := h.drop hid
    refine ⟨rfl, ?_, h₁.of_face rfl rfl ?_⟩
    · exact congrArg (· ++ [] ++ []) hlog
    · show ({ (r.drop id).value.2 with locks := _ } : Registry).face group =
        ({ (r'.drop id).value.2 with locks := _ } : Registry).face group
      rw [face_append, face_append, h₁.face]
  | acquire id =>
    change group id = true at hid
    have hacquire : Lockstep t₀ group paths (r.acquire id) (r'.acquire id) := by
      rw [Registry.acquire, Registry.acquire]
      rcases h.lock? hid with ⟨hl, hl'⟩ | ⟨l, l', hl, hl', heq⟩
      · rw [hl, hl']
        exact ⟨rfl, rfl, h⟩
      · rw [hl, hl']
        exact (h.acquireLock hapart hr hr' hid hl hl' heq).bind fun _ _ _ h₁ => ⟨rfl, rfl, h₁⟩
    exact hacquire.bind fun _ _ _ h₁ => ⟨rfl, rfl, h₁⟩
  | release id => exact (h.release hid).bind fun _ _ _ h₁ => ⟨rfl, rfl, h₁⟩
  | drop id => exact (h.drop hid).bind fun _ _ _ h₁ => ⟨rfl, rfl, h₁⟩
  | claim id enabled =>
    change group id = true at hid
    have hclaim : Lockstep t₀ group paths (r.claim id enabled) (r'.claim id enabled) := by
      rw [Registry.claim, Registry.claim]
      rcases h.lock? hid with ⟨hl, hl'⟩ | ⟨l, l', hl, hl', heq⟩
      · rw [hl, hl']
        exact ⟨rfl, rfl, h⟩
      · rw [hl, hl']
        exact (h.claimLock hapart hr hr' hid hl hl' heq enabled).bind
          fun _ _ _ h₁ => ⟨rfl, rfl, h₁⟩
    exact hclaim.bind fun _ _ _ h₁ => ⟨rfl, rfl, h₁⟩

/-- **Steps of others.**  After a step of a lock outside the group the registry looks the same to
it: the file that may have been made is neither one of the group nor in its way. -/
lemma perform_other (h : Alike t₀ group paths r r') (hr : Placed t₀ paths r) {s : LockStep}
    (hid : group s.id = false) : Alike t₀ group paths (r.perform s).value.2 r' where
  face := (face_moves (perform_moves r s) hid).trans h.face
  tree := by
    intro i p hi hp place hplace
    rw [← h.tree i p hi hp place hplace]
    rcases tree_perform r s with hsame | ⟨l, n, hl, hopen⟩
    · rw [hsame]
    · obtain ⟨made, hmade, -⟩ := Tree.openOrMake_eq_ok_iff.1 hopen
      rw [Tree.find?_openOrMake_eq_none hopen hmade]
      refine and_iff_left_of_imp fun hnone hsame => ?_
      rw [hr.grown.filePlace?_eq] at hmade
      obtain ⟨hfile, hway⟩ := hapart i s.id p l.path hi hid hp (hr.along _ l hl) made hmade
      rcases hplace with hplace | hplace
      · have hmissing : t₀.find? made = none := by
          refine Option.eq_none_iff_forall_ne_some.2 fun node hnode => ?_
          rw [hsame] at hnone
          exact nomatch hnone.symm.trans (hr.grown.stays made node hnode)
        exact hway hmissing (hsame ▸ hplace)
      · exact hfile (hsame ▸ hplace)

end Alike

end Apart

/-- Steps that create locks with paths that are allowed to them keep the registry in its place. -/
lemma Placed.perform (hr : Placed t₀ paths r) {s : LockStep}
    (hs : ∀ p, s.path? = some p → paths s.id p) : Placed t₀ paths (r.perform s).value.2 := by
  have hmoves := perform_moves r s
  refine ⟨hr.sound.moves hmoves, ?_, ?_, fun i l hl => ?_⟩
  · rcases tree_perform r s with hsame | ⟨l, n, -, hopen⟩
    · rw [hsame]
      exact hr.counted
    · exact hr.counted.openOrMake hopen
  · rcases tree_perform r s with hsame | ⟨l, n, -, hopen⟩
    · rw [hsame]
      exact hr.grown
    · exact hr.grown.trans (Tree.addsFiles_openOrMake hopen)
  · by_cases hi : i = s.id
    · subst hi
      rcases path_perform hl with ⟨l₀, hl₀, hpath⟩ | hmade
      · rw [hpath]
        exact hr.along _ l₀ hl₀
      · exact hs _ hmade
    · rw [hmoves.lock?_of_ne hi] at hl
      exact hr.along i l hl

end Alike

end Registry

end LaunchGuard
