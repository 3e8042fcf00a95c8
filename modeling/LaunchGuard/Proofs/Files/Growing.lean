/-
# Folders that are added

Making folders changes nothing that is there, and what it adds are folders at the end of the given
paths.  So a path that led to something leads to it still.  The converse fails for paths that go up:
where a folder is missing, `..` leads nowhere, but once the folder is made it leads back, and the
rest of the path may find what was there all along.

For all other paths the converse rests on everything in the tree lying in a folder: what was there
before could be reached before.
-/
import Mathlib.Data.List.Induction
import LaunchGuard.Proofs.Files.Keeping

namespace LaunchGuard.Tree

/-- From the first tree to the second nothing goes or changes, and all that comes is folders that
some of the paths lead to. -/
structure Grows (ps : List Path) (t t' : Tree) : Prop where
  stays : ∀ place n, t.find? place = some n → t'.find? place = some n
  made : ∀ place n, t'.find? place = some n → t.find? place = some n ∨
    n = .folder ∧ ∃ q ∈ ps, t'.reach q = .ok (place, some .folder)

/-- Everything lies in a folder. -/
def Closed (t : Tree) : Prop :=
  ∀ place n, t.find? place = some n → t.find? place.dropLast = some .folder

/-- Somewhere on the path, `..` starts from something that is not there. -/
def GoesUpFromMissing (t : Tree) (p : Path) : Prop :=
  ∃ steps before, stepsTo p = .ok steps ∧ before ++ [.up] <+: steps ∧
    t.walk [] (before ++ [.up]) = .error .notFound

variable {ps : List Path} {t t' t'' : Tree} {p q : Path} {place : Place} {n : Node}

/-! ### Making folders -/

namespace Grows

lemma refl (t : Tree) : Grows ps t t where
  stays _ _ h := h
  made _ _ h := .inl h

lemma folder (h : Grows ps t t') (place : Place) (hf : t.find? place = some .folder) :
    t'.find? place = some .folder := h.stays place .folder hf

/-- What is found at the end of a path is found there still. -/
lemma reach (h : Grows ps t t') (hp : t.reach p = .ok (place, some n)) :
    t'.reach p = .ok (place, some n) := by
  obtain ⟨-, -, -, hfind⟩ := reach_eq_ok_iff.1 hp
  rw [reach_mono h.folder hp, h.stays place n hfind]

lemma trans (h : Grows ps t t') (h' : Grows ps t' t'') : Grows ps t t'' where
  stays place n hf := h'.stays place n (h.stays place n hf)
  made place n hf := by
    rcases h'.made place n hf with hf | hnew
    · rcases h.made place n hf with hf | ⟨rfl, q, hq, hreach⟩
      · exact .inl hf
      · exact .inr ⟨rfl, q, hq, h'.reach hreach⟩
    · exact .inr hnew

/-- No file is made, changed or removed. -/
lemma find?_file_iff (h : Grows ps t t') {k : Nat} {c : List UInt8} :
    t'.find? place = some (.file k c) ↔ t.find? place = some (.file k c) := by
  constructor
  · intro hf
    rcases h.made place _ hf with hf | ⟨hn, -⟩
    · exact hf
    · cases hn
  · exact h.stays place _

end Grows

lemma grows_makeFolder (h : t.makeFolder p = .ok t') (hp : p ∈ ps) : Grows ps t t' := by
  obtain ⟨place, hr, rfl⟩ := makeFolder_eq_ok h
  obtain ⟨-, -, -, hnone⟩ := reach_eq_ok_iff.1 hr
  have hold : ∀ q n, t.find? q = some n →
      (⟨t.nodes ++ [(place, .folder)], t.next⟩ : Tree).find? q = some n := by
    intro q n hf
    rw [find?_append, hf, Option.some_or]
  refine ⟨hold, fun q n hf => ?_⟩
  rw [find?_append, Option.or_eq_some_iff] at hf
  rcases hf with hf | ⟨-, hf⟩
  · exact .inl hf
  · split at hf
    · next heq =>
      cases hf
      subst heq
      refine .inr ⟨rfl, p, hp, ?_⟩
      rw [reach_mono (fun q => hold q _) hr, find?_append, hnone, if_pos rfl, Option.none_or]
    · cases hf

lemma grows_ensureChain (t : Tree) (ps : List Path) : Grows ps t (t.ensureChain ps).1 :=
  ensureChain_induction (fun _ hp _ _ hmake hgrow => hgrow.trans (grows_makeFolder hmake hp))
    (Grows.refl t)

/-! ### Everything lies in a folder -/

lemma closed_empty : ({} : Tree).Closed := by
  intro place n h
  by_cases hplace : place = []
  · subst hplace
    rfl
  · rw [find?_of_ne_nil hplace] at h
    cases h

/-- The folders above anything that is there are there. -/
lemma Closed.find?_prefix (ht : t.Closed) {above below : Place} (hbelow : below ≠ [])
    (h : t.find? (above ++ below) = some n) : t.find? above = some .folder := by
  induction below using List.reverseRecOn generalizing n with
  | nil => exact absurd rfl hbelow
  | append_singleton below name ih =>
    have hparent := ht _ n h
    rw [← List.append_assoc, List.dropLast_concat] at hparent
    by_cases hnil : below = []
    · rwa [hnil, List.append_nil] at hparent
    · exact ih hnil hparent

/-- Steps that start in a folder end at a place in a folder. -/
lemma Closed.walk_dropLast (ht : t.Closed) {steps : List PathStep} {place q : Place}
    (hplace : t.find? place.dropLast = some .folder) (h : t.walk place steps = .ok q) :
    t.find? q.dropLast = some .folder := by
  induction steps generalizing place with
  | nil =>
    cases h
    exact hplace
  | cons s steps ih =>
    obtain ⟨hfolder, next, hnext, hrest⟩ := walk_cons_eq_ok_iff.1 h
    refine ih ?_ hrest
    cases s with
    | stay =>
      cases hnext
      exact hplace
    | up =>
      cases hnext
      exact ht _ _ hplace
    | down name =>
      rwa [eq_of_stepFrom_down hnext, List.dropLast_concat]

lemma Closed.reach_dropLast (ht : t.Closed) {o : Option Node} (h : t.reach p = .ok (place, o)) :
    t.find? place.dropLast = some .folder := by
  obtain ⟨steps, -, hwalk, -⟩ := reach_eq_ok_iff.1 h
  exact ht.walk_dropLast rfl hwalk

/-- If the folders stay and what is new lies in one of them, everything still lies in a folder. -/
lemma Closed.of_folders (ht : t.Closed)
    (hfolder : ∀ q, t.find? q = some .folder → t'.find? q = some .folder)
    (hnew : ∀ q n, t'.find? q = some n →
      (∃ m, t.find? q = some m) ∨ t.find? q.dropLast = some .folder) : t'.Closed := by
  intro q n h
  rcases hnew q n h with ⟨m, hm⟩ | hparent
  · exact hfolder _ (ht q m hm)
  · exact hfolder _ hparent

lemma Closed.append (ht : t.Closed) (hplace : t.find? place.dropLast = some .folder) (n : Node)
    (k : Nat) : Closed ⟨t.nodes ++ [(place, n)], k⟩ := by
  refine ht.of_folders (fun q hf => by rw [find?_append, hf, Option.some_or]) fun q m hf => ?_
  rw [find?_append, Option.or_eq_some_iff] at hf
  rcases hf with hf | ⟨-, hf⟩
  · exact .inl ⟨m, hf⟩
  · split at hf
    · next heq => exact .inr (heq ▸ hplace)
    · cases hf

lemma Closed.makeFolder (ht : t.Closed) (h : t.makeFolder p = .ok t') : t'.Closed := by
  obtain ⟨place, hr, rfl⟩ := makeFolder_eq_ok h
  exact ht.append (ht.reach_dropLast hr) .folder t.next

lemma Closed.ensureChain (ht : t.Closed) (ps : List Path) : (t.ensureChain ps).1.Closed :=
  ensureChain_induction (fun _ _ _ _ hmake hclosed => hclosed.makeFolder hmake) ht

lemma Closed.write (ht : t.Closed) {content : List UInt8} (h : t.write p content = .ok t') :
    t'.Closed := by
  have hkeeps : Keeps (fun _ => True) t t' := keeps_write h
  obtain ⟨place, hfound, rfl⟩ | ⟨place, m, c, hfound, rfl⟩ := write_eq_ok h
  · exact ht.append (ht.reach_dropLast (lookForFile_eq_ok_iff.1 hfound).2) _ _
  · refine ht.of_folders hkeeps.folder fun q n hf => .inl ?_
    by_cases hq : q = place
    · exact ⟨_, hq ▸ find?_of_lookForFile hfound⟩
    · exact ⟨n, by rwa [find?_replace_of_ne t hq] at hf⟩

lemma Closed.remove (ht : t.Closed) (h : t.remove p = .ok t') : t'.Closed := by
  obtain ⟨_, -, hkeeps⟩ := keeps_remove h
  obtain ⟨place, m, c, hfound, rfl⟩ := remove_eq_ok h
  refine ht.of_folders hkeeps.folder fun q n hf => .inl ?_
  by_cases hq : q = place
  · subst hq
    rw [find?_without_self t (ne_nil_of_find?_file (find?_of_lookForFile hfound))] at hf
    cases hf
  · exact ⟨n, by rwa [find?_without_of_ne t hq] at hf⟩

/-! ### What a path finds among new folders -/

/-- Steps that fail other than for want of something fail in the same way among more folders. -/
lemma Grows.walk_error (h : Grows ps t t') {steps : List PathStep} {place : Place} {f : Fault}
    (hf : f ≠ .notFound) (hw : t.walk place steps = .error f) :
    t'.walk place steps = .error f := by
  induction steps generalizing place with
  | nil => cases hw
  | cons s steps ih =>
    rw [walk.eq_def] at hw ⊢
    dsimp only at hw ⊢
    rcases hfind : t.find? place with _ | _ | ⟨k, c⟩
    · rw [hfind] at hw
      cases hw
      exact absurd rfl hf
    · rw [hfind] at hw
      rw [h.folder place hfind]
      cases s with
      | stay => exact ih hw
      | up => exact ih hw
      | down name =>
        dsimp only at hw ⊢
        split at hw
        · next hlong => rwa [if_pos hlong]
        · next hshort =>
          rw [if_neg hshort]
          exact ih hw
    · rw [hfind] at hw
      rw [h.stays place _ hfind]
      exact hw

/-- Steps that do not go up lead further down. -/
lemma prefix_of_walk {steps : List PathStep} {place q : Place} (hsteps : .up ∉ steps)
    (h : t.walk place steps = .ok q) : place <+: q := by
  induction steps generalizing place with
  | nil =>
    cases h
    exact List.prefix_refl _
  | cons s steps ih =>
    obtain ⟨-, next, hnext, hrest⟩ := walk_cons_eq_ok_iff.1 h
    have hnext' := ih (fun hup => hsteps (.tail s hup)) hrest
    cases s with
    | stay =>
      cases hnext
      exact hnext'
    | up => exact absurd (.head steps) hsteps
    | down name =>
      rw [eq_of_stepFrom_down hnext] at hnext'
      exact (List.prefix_append place [name]).trans hnext'

/-- Steps that do not go up and end with a name do not lead back. -/
lemma ne_of_walk_down {steps : List PathStep} {name : String} {place q : Place}
    (hsteps : .up ∉ steps) (h : t.walk place (steps ++ [.down name]) = .ok q) : q ≠ place := by
  obtain ⟨middle, hmiddle, hlast⟩ := walk_append_eq_ok_iff.1 h
  obtain ⟨below, rfl⟩ := prefix_of_walk hsteps hmiddle
  obtain ⟨-, next, hnext, hrest⟩ := walk_cons_eq_ok_iff.1 hlast
  cases hrest
  rw [eq_of_stepFrom_down hnext]
  intro heq
  have hlength := congrArg List.length heq
  simp only [List.length_append, List.length_singleton] at hlength
  omega

/-- To what was there before, steps that do not go up led before. -/
lemma Grows.walk_of_found (h : Grows ps t t') (ht : t.Closed) {steps : List PathStep}
    {place q : Place} (hsteps : .up ∉ steps) (hw : t'.walk place steps = .ok q)
    (hq : t.find? q = some n) : t.walk place steps = .ok q := by
  induction steps generalizing place with
  | nil => exact hw
  | cons s steps ih =>
    obtain ⟨hfolder, next, hnext, hrest⟩ := walk_cons_eq_ok_iff.1 hw
    have hrest' := ih (fun hup => hsteps (.tail s hup)) hrest
    obtain ⟨below, rfl⟩ := prefix_of_walk hsteps hw
    have hplace : t.find? place = some .folder := by
      by_cases hbelow : below = []
      · -- the step stays in a folder, and that is the very thing that was there
        rw [hbelow, List.append_nil] at hq
        rw [hq, ← h.stays place n hq, hfolder]
      · exact ht.find?_prefix hbelow hq
    exact walk_cons_eq_ok_iff.2 ⟨hplace, next, hnext, hrest'⟩

/-- The steps up to the last one that goes up, and the others. -/
lemma exists_last_up (steps : List PathStep) :
    ∃ a b, steps = a ++ b ∧ .up ∉ b ∧ (a = [] ∨ ∃ before, a = before ++ [.up]) := by
  induction steps with
  | nil => exact ⟨[], [], rfl, List.not_mem_nil, .inl rfl⟩
  | cons s steps ih =>
    obtain ⟨a, b, rfl, hb, rfl | ⟨before, rfl⟩⟩ := ih
    · by_cases hs : s = .up
      · exact ⟨[s], b, rfl, hb, .inr ⟨[], by rw [hs]; rfl⟩⟩
      · exact ⟨[], s :: b, rfl, List.not_mem_cons_of_ne_of_not_mem (Ne.symm hs) hb, .inl rfl⟩
    · exact ⟨s :: (before ++ [.up]), b, rfl, hb, .inr ⟨s :: before, rfl⟩⟩

section LastUp

variable {a b : List PathStep} {P : Place}

/-- Up to its last step up, a path that does not go up from anything missing leads where it led
before, and that is a folder. -/
lemma Grows.walk_last_up (h : Grows ps t t') (ht : t.Closed) (hsteps : stepsTo p = .ok (a ++ b))
    (ha : a = [] ∨ ∃ before, a = before ++ [.up]) (hup : ¬t.GoesUpFromMissing p)
    (hw : t'.walk [] a = .ok P) : t.walk [] a = .ok P ∧ t.find? P = some .folder := by
  rcases ha with rfl | ⟨before, rfl⟩
  · cases hw
    exact ⟨rfl, rfl⟩
  · cases hbefore : t.walk [] (before ++ [.up]) with
    | error f =>
      have hf : f ≠ .notFound := by
        rintro rfl
        exact hup ⟨_, before, hsteps, List.prefix_append _ b, hbefore⟩
      exact nomatch hw.symm.trans (h.walk_error hf hbefore)
    | ok Q =>
      cases hw.symm.trans (walk_mono h.folder hbefore)
      obtain ⟨middle, -, hlast⟩ := walk_append_eq_ok_iff.1 hbefore
      obtain ⟨hfolder, next, hnext, hrest⟩ := walk_cons_eq_ok_iff.1 hlast
      cases hnext
      cases hrest
      exact ⟨rfl, ht _ _ hfolder⟩

/-- What a path with a further name leads to is none of the new folders. -/
lemma Grows.find?_of_walk (h : Grows ps t t') {name : String}
    (hps : ∀ q ∈ ps, q.steps <+: a ++ b) (hb : .up ∉ b) (ha : t.walk [] a = .ok P)
    (hP : t.find? P = some .folder) (hw : t'.walk P (b ++ [.down name]) = .ok place)
    (hfind : t'.find? place = some n) : t.find? place = some n := by
  rcases h.made place n hfind with hold | ⟨rfl, q, hq, hreach⟩
  · exact hold
  obtain ⟨steps, hsteps, hwalk, -⟩ := reach_eq_ok_iff.1 hreach
  rw [← steps_of_stepsTo hsteps] at hwalk
  rcases List.prefix_or_prefix_of_prefix (hps q hq) (List.prefix_append a b) with ⟨d, rfl⟩ | ⟨c, hc⟩
  · -- the path of the folder ends on the way to `P`, where everything is a folder already
    obtain ⟨Q, hQ, hrest⟩ := walk_append_eq_ok_iff.1 ha
    cases hwalk.symm.trans (walk_mono h.folder hQ)
    cases d with
    | nil =>
      cases hrest
      exact hP
    | cons s d => exact (walk_cons_eq_ok_iff.1 hrest).1
  · -- it goes on from `P`, and the further name leads away from where it ends
    have hprefix := hps q hq
    rw [← hc, List.prefix_append_right_inj] at hprefix
    obtain ⟨e, rfl⟩ := hprefix
    rw [← hc] at hwalk
    obtain ⟨P', hP', hc'⟩ := walk_append_eq_ok_iff.1 hwalk
    cases hP'.symm.trans (walk_mono h.folder ha)
    rw [List.append_assoc] at hw
    obtain ⟨middle, hmiddle, hlast⟩ := walk_append_eq_ok_iff.1 hw
    cases hmiddle.symm.trans hc'
    exact absurd rfl (ne_of_walk_down (fun hup => hb (List.mem_append_right c hup)) hlast)

end LastUp

/-- A path that does not go up from anything missing finds among new folders only what it found
before, if the paths of the new folders end before its last name. -/
lemma Grows.reach_of_reach (h : Grows ps t t') (ht : t.Closed) {base : List PathStep}
    {name : String} (hp : p.steps = base ++ [.down name]) (hps : ∀ q ∈ ps, q.steps <+: base)
    (hup : ¬t.GoesUpFromMissing p) (hr : t'.reach p = .ok (place, some n)) :
    t.reach p = .ok (place, some n) := by
  obtain ⟨steps, hsteps, hwalk, hfind⟩ := reach_eq_ok_iff.1 hr
  obtain ⟨a, b, rfl, hb, ha⟩ := exists_last_up base
  rw [← steps_of_stepsTo hsteps, hp, List.append_assoc] at hwalk hsteps
  obtain ⟨P, hP, hrest⟩ := walk_append_eq_ok_iff.1 hwalk
  obtain ⟨hP', hfolder⟩ := h.walk_last_up ht hsteps ha hup hP
  have hold := h.find?_of_walk hps hb hP' hfolder hrest hfind
  have hb' : .up ∉ b ++ [.down name] := by simpa using hb
  have hrest' := h.walk_of_found ht hb' hrest hold
  exact reach_eq_ok_iff.2 ⟨_, hsteps, walk_append_eq_ok_iff.2 ⟨P, hP', hrest'⟩, hold⟩

end LaunchGuard.Tree
