/-
# Groups of locks on files of their own

A run of lock steps may concern two groups of identifiers at once, with their steps interleaved in
any way.  If no lock of one group has the lock file of a lock of the other, and none has its lock
file beyond one of the other, then each group gets the answers, writes the entries and goes through
the states that it would alone.

The second condition cannot be left out.  A lock file is made when it is first opened, and where
nothing was on the way to another lock file, there is then a file.  That other file cannot be opened
in either case, but for another cause.
-/
import LaunchGuard.Proofs.Lock.Groups

namespace LaunchGuard

/-- The folder and the name of the lock file of the lock that a step creates. -/
def LockStep.file? : LockStep → Option (Path × String)
  | .create _ name folder => some (folder, Lock.fileName name)
  | _ => none

/-- What can be seen of a step: its answer, what it logged and the states after it. -/
structure Sight where
  answer : LockAnswer
  log : List Entry
  states : List (String × Ownership)

/-- Why the lock of the step could not be acquired, if that is its answer. -/
def Sight.cause? (v : Sight) : Option String :=
  match v.answer with
  | .acquisition (.error f) => some f.cause
  | _ => none

namespace Registry

variable {r r' : Registry} {group : String → Bool}

/-- What a group sees of a run: its own steps, and after each of them the states of its locks. -/
def seenBy (group : String → Bool) (r : Registry) : List LockStep → List Sight
  | [] => []
  | s :: rest =>
    let done := r.perform s
    if group s.id then
      ⟨done.value.1, done.log, done.value.2.statesOf group⟩ :: seenBy group done.value.2 rest
    else seenBy group done.value.2 rest

/-- No locks yet, on the files that anything before has left. -/
def fresh (scene : List LockEvent) : Registry := { tree := (({} : Registry).after scene).tree }

/-- The group to which everyone belongs. -/
def everyone : String → Bool := fun _ => true

lemma statesOf_everyone (r : Registry) : r.statesOf everyone = r.states :=
  List.filter_eq_self.2 fun _ _ => rfl

lemma performAll_cons (r : Registry) (s : LockStep) (rest : List LockStep) :
    (r.performAll (s :: rest)).value.2 = ((r.perform s).value.2.performAll rest).value.2 := rfl

/-- Everyone together sees all answers and all entries of a run. -/
lemma seenBy_everyone (r : Registry) (steps : List LockStep) :
    (r.seenBy everyone steps).map Sight.answer = (r.performAll steps).value.1 ∧
      (r.seenBy everyone steps).flatMap Sight.log = (r.performAll steps).log := by
  induction steps generalizing r with
  | nil => exact ⟨rfl, rfl⟩
  | cons s rest ih =>
    obtain ⟨hanswers, hlog⟩ := ih (r.perform s).value.2
    have hseen : r.seenBy everyone (s :: rest) =
        ⟨(r.perform s).value.1, (r.perform s).log, (r.perform s).value.2.statesOf everyone⟩ ::
          (r.perform s).value.2.seenBy everyone rest := rfl
    rw [hseen, List.map_cons, List.flatMap_cons, hanswers, hlog]
    refine ⟨rfl, ?_⟩
    show _ = (r.perform s).log ++ (((r.perform s).value.2.performAll rest).log ++ [])
    rw [List.append_nil]

/-! ### A group without others -/

/-- While only a group has locks, its states are all states. -/
lemma statesOf_eq_states (h : ∀ id, group id = false → r.lock? id = none) :
    r.statesOf group = r.states := by
  refine List.filter_eq_self.2 fun e he => Bool.of_not_eq_false fun hout => ?_
  obtain ⟨d, hd, rfl⟩ := List.mem_map.1 he
  exact notMem_of_lookup_eq_none (h d.1 hout) (List.mem_map.2 ⟨d, hd, rfl⟩)

lemma lock?_perform_of_group (h : ∀ id, group id = false → r.lock? id = none) {s : LockStep}
    (hs : group s.id = true) (id : String) (hid : group id = false) :
    (r.perform s).value.2.lock? id = none := by
  have hne : id ≠ s.id := by
    rintro rfl
    exact Bool.false_ne_true (hid.symm.trans hs)
  rw [(perform_moves r s).lock?_of_ne hne, h id hid]

/-- A group that takes all steps, with no locks but its own, sees what everyone sees. -/
lemma seenBy_alone (h : ∀ id, group id = false → r.lock? id = none) {steps : List LockStep}
    (hsteps : ∀ s ∈ steps, group s.id = true) :
    r.seenBy group steps = r.seenBy everyone steps ∧
      (r.performAll steps).value.2.statesOf group = (r.performAll steps).value.2.states := by
  induction steps generalizing r with
  | nil => exact ⟨rfl, statesOf_eq_states h⟩
  | cons s rest ih =>
    have hs := hsteps s (.head rest)
    have hnext := lock?_perform_of_group h hs
    obtain ⟨hseen, hstates⟩ := ih hnext fun s' hs' => hsteps s' (.tail s hs')
    refine ⟨?_, hstates⟩
    have heveryone : everyone s.id = true := rfl
    rw [seenBy, seenBy, if_pos hs, if_pos heveryone, hseen, statesOf_eq_states hnext,
      statesOf_everyone]

/-! ### A group among others -/

section Apart

variable {t₀ : Tree} {paths : String → Path → Prop}

/-- In a run with steps of others, a group sees what it sees of the run of its own steps on a
registry that looks the same to it, and the registries look the same in the end. -/
lemma Alike.run (hapart : ∀ id id' p p', group id = true → group id' = false → paths id p →
      paths id' p' → t₀.Apart p p')
    (h : Alike t₀ group paths r r') (hr : Placed t₀ paths r) (hr' : Placed t₀ paths r')
    {steps : List LockStep} (hsteps : ∀ s ∈ steps, ∀ p, s.path? = some p → paths s.id p) :
    r.seenBy group steps = r'.seenBy group (steps.filter (group ·.id)) ∧
      Alike t₀ group paths (r.performAll steps).value.2
        (r'.performAll (steps.filter (group ·.id))).value.2 := by
  induction steps generalizing r r' with
  | nil => exact ⟨rfl, h⟩
  | cons s rest ih =>
    have hnext := hr.perform (hsteps s (.head rest))
    have hrest : ∀ s' ∈ rest, ∀ p, s'.path? = some p → paths s'.id p :=
      fun s' hs' => hsteps s' (.tail s hs')
    cases hs : group s.id with
    | true =>
      obtain ⟨hanswer, hlog, halike⟩ := h.perform hapart hr hr' hs
      obtain ⟨hseen, hend⟩ := ih halike hnext (hr'.perform (hsteps s (.head rest))) hrest
      have hfilter : (s :: rest).filter (group ·.id) = s :: rest.filter (group ·.id) :=
        List.filter_cons_of_pos hs
      rw [hfilter, performAll_cons, performAll_cons]
      refine ⟨?_, hend⟩
      rw [seenBy, seenBy, if_pos hs, if_pos hs, hanswer, hlog, hseen, statesOf_eq_face,
        statesOf_eq_face, halike.face]
    | false =>
      obtain ⟨hseen, hend⟩ := ih (h.perform_other hapart hr hs) hnext hr' hrest
      have hnot : ¬group s.id = true := by simp [hs]
      have hfilter : (s :: rest).filter (group ·.id) = rest.filter (group ·.id) :=
        List.filter_cons_of_neg hnot
      rw [hfilter, performAll_cons]
      refine ⟨?_, hend⟩
      rw [seenBy, if_neg hnot, hseen]

end Apart

/-! ### Where a run starts -/

lemma counted_fresh (scene : List LockEvent) : (fresh scene).tree.Counted :=
  counted_after Tree.Counted.empty scene

/-- Without locks, everything about them agrees. -/
lemma placed_fresh (scene : List LockEvent) (paths : String → Path → Prop) :
    Placed (fresh scene).tree paths (fresh scene) where
  sound := by
    have hstart := Sound.start.keeps (t := (fresh scene).tree)
      ⟨fun place hf => ?_, fun place n c hf => nofun, fun _ => (counted_fresh scene).numbered,
        Nat.zero_le _⟩
    · exact hstart
    · by_cases hplace : place = []
      · rw [hplace]
        rfl
      · rw [Tree.find?_of_ne_nil hplace] at hf
        cases hf
  counted := counted_fresh scene
  grown := .refl _
  along _ _ h := nomatch h

/-- **Independence.**  Let the identifiers be parted into two groups, let there be any files and no
locks, and let steps of both groups be interleaved in any way.  If every lock that one group creates
has its lock file apart from those that the other group creates - another file, and none that lies
beyond a lock file of the other that is still missing - then each group sees exactly what it sees
if its own steps are taken alone: the same answers, the same entries, and the same states of its
locks after each step.  At every moment of the run the locks of each group are in the states in
which its own steps so far would have left them. -/
theorem groups_do_not_interact (scene : List LockEvent) (first : String → Bool)
    (steps : List LockStep)
    (hapart : ∀ s ∈ steps, ∀ s' ∈ steps, first s.id ≠ first s'.id → ∀ p p', s.path? = some p →
      s'.path? = some p' → (fresh scene).tree.Apart p p') (side : Bool) :
    let group : String → Bool := fun id => first id == side
    let own : List LockStep → List LockStep := List.filter (group ·.id)
    let start := fresh scene
    start.seenBy group steps = start.seenBy everyone (own steps) ∧
    ∀ n, (start.performAll (steps.take n)).value.2.statesOf group =
      (start.performAll (own (steps.take n))).value.2.states := by
  intro group own start
  -- the paths of an identifier are those of the locks that its group creates
  let paths (id : String) (p : Path) : Prop := ∃ s ∈ steps, first s.id = first id ∧ s.path? = some p
  have hparted : ∀ id id' p p', group id = true → group id' = false → paths id p →
      paths id' p' → start.tree.Apart p p' := by
    rintro id id' p p' hid hid' ⟨s, hs, hfirst, hp⟩ ⟨s', hs', hfirst', hp'⟩
    refine hapart s hs s' hs' ?_ p p' hp hp'
    rw [hfirst, hfirst']
    rintro heq
    have hsame : group id = group id' := congrArg (· == side) heq
    exact Bool.false_ne_true (hid'.symm.trans (hsame.symm.trans hid))
  have hrun : ∀ part : List LockStep, part ⊆ steps →
      start.seenBy group part = start.seenBy everyone (own part) ∧
        (start.performAll part).value.2.statesOf group =
          (start.performAll (own part)).value.2.states := by
    intro part hpart
    have hplaced := placed_fresh scene paths
    have hpaths : ∀ s ∈ part, ∀ p, s.path? = some p → paths s.id p :=
      fun s hs p hp => ⟨s, hpart hs, rfl, hp⟩
    have hown : ∀ s ∈ own part, group s.id = true := fun s hs => (List.mem_filter.1 hs).2
    have hnone : ∀ id, group id = false → start.lock? id = none := fun _ _ => rfl
    obtain ⟨hseen, hend⟩ := (Alike.refl start).run hparted hplaced hplaced hpaths
    obtain ⟨halone, hstates⟩ := seenBy_alone hnone hown
    refine ⟨hseen.trans halone, ?_⟩
    rw [← hstates, statesOf_eq_face, statesOf_eq_face, hend.face]
  exact ⟨(hrun steps (List.Subset.refl steps)).1, fun n => (hrun _ (List.take_subset n steps)).2⟩

/-- Two locks of one name in a folder exclude each other as if there were no lock of that name in
another folder. -/
theorem groups_do_not_interact_in_two_folders :
    let scene : List LockEvent := [.makeFolders ⟨"a"⟩, .makeFolders ⟨"b"⟩]
    let first (id : String) : Bool := id == "x" || id == "y"
    let steps : List LockStep := [.create "x" "app" ⟨"a"⟩, .create "z" "app" ⟨"b"⟩,
      .create "y" "app" ⟨"a"⟩, .acquire "z", .acquire "x", .acquire "y", .drop "z", .release "x",
      .acquire "y"]
    (fresh scene).seenBy (fun id => first id == true) steps =
      (fresh scene).seenBy everyone (steps.filter fun s => first s.id == true) := by
  intro scene first steps
  have hpaths : ∀ s ∈ steps, s.path? = none ∨
      s.path? = some (if first s.id then ⟨"a/app.lock"⟩ else ⟨"b/app.lock"⟩) := by
    decide +kernel
  have ha : (fresh scene).tree.filePlace? ⟨"a/app.lock"⟩ = some (["a", "app.lock"] : Place) := by
    decide +kernel
  have hb : (fresh scene).tree.filePlace? ⟨"b/app.lock"⟩ = some (["b", "app.lock"] : Place) := by
    decide +kernel
  refine (groups_do_not_interact scene first steps (fun s hs s' hs' hne p p' hp hp' => ?_) true).1
  rcases hpaths s hs with hnone | hpath
  · exact nomatch hnone.symm.trans hp
  rcases hpaths s' hs' with hnone | hpath'
  · exact nomatch hnone.symm.trans hp'
  obtain rfl := Option.some.inj (hp.symm.trans hpath)
  obtain rfl := Option.some.inj (hp'.symm.trans hpath')
  cases hs₁ : first s.id <;> cases hs₂ : first s'.id
  · exact absurd (hs₁.trans hs₂.symm) hne
  · exact Tree.apart_of_places hb ha (by decide)
  · exact Tree.apart_of_places ha hb (by decide)
  · exact absurd (hs₁.trans hs₂.symm) hne

/-- A lock beyond the lock file of another: no folder and file name comes in both groups, nor do the
paths lead to one file; and yet the second attempt of the lock `2` fails for another cause than it
would alone, since the first has made a file of what should be a folder. -/
theorem groups_interact_beyond_missing_file :
    let start := fresh [.makeFolders ⟨"a"⟩, .makeFolders ⟨"b"⟩]
    let group (id : String) : Bool := id == "2"
    let steps : List LockStep := [.create "1" "n" ⟨"a"⟩, .create "2" "m" ⟨"a/n.lock"⟩,
      .acquire "2", .acquire "1", .acquire "2"]
    (∀ s ∈ steps, ∀ s' ∈ steps, group s.id ≠ group s'.id →
      (s.file? ≠ none → s.file? ≠ s'.file?) ∧
      (s.path?.bind start.tree.filePlace? ≠ none →
        s.path?.bind start.tree.filePlace? ≠ s'.path?.bind start.tree.filePlace?)) ∧
    start.seenBy group steps ≠ start.seenBy everyone (steps.filter (group ·.id)) := by
  intro start group steps
  refine ⟨by decide +kernel, fun hsame => ?_⟩
  -- the cause of the last failure tells the two runs apart
  have hcauses := congrArg (List.map Sight.cause?) hsame
  have hmixed : (start.seenBy group steps).map Sight.cause? =
      [none, some Fault.notFound.message, some Fault.notDirectory.message] := by
    decide +kernel
  have halone : (start.seenBy everyone (steps.filter (group ·.id))).map Sight.cause? =
      [none, some Fault.notFound.message, some Fault.notFound.message] := by
    decide +kernel
  rw [hmixed, halone] at hcauses
  exact absurd hcauses (by decide)

end Registry

end LaunchGuard
