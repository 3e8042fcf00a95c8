/-
# Why a file cannot be opened

A file that is missing is made when it is opened, so little can stand in the way.  The system may not
take the path at all.  The steps of the path may stop at a place without a folder to go on
from, or at a name that is too long.  Or the path leads to a folder, which cannot be opened as a file.
-/
import LaunchGuard.Proofs.Files.Changes

namespace LaunchGuard.Tree

variable {t : Tree} {p : Path} {place : Place} {f : Fault} {s : PathStep} {steps : List PathStep}

/-- Why a step cannot be taken from a place. -/
inductive Stops (t : Tree) (place : Place) : PathStep → Fault → Prop
  /-- Nothing is where a folder is needed. -/
  | missing {s : PathStep} : t.find? place = none → Stops t place s .notFound
  /-- A file is where a folder is needed. -/
  | file {s : PathStep} {n : Nat} {c : List UInt8} : t.find? place = some (.file n c) →
      Stops t place s .notDirectory
  /-- No file or folder can have so long a name. -/
  | long {name : Spelling} : t.find? place = some .folder → nameLimit < name.bytes.length →
      Stops t place (.down name) .nameTooLong

/-- Why the file at a path cannot be opened. -/
inductive Obstacle (t : Tree) (p : Path) : Fault → Prop
  /-- The system does not take the path. -/
  | path {f : Fault} : stepsTo p = .error f → Obstacle t p f
  /-- One of the steps cannot be taken. -/
  | step {before after : List PathStep} {s : PathStep} {place : Place} {f : Fault} :
      stepsTo p = .ok (before ++ s :: after) → t.walk [] before = .ok place → t.Stops place s f →
      Obstacle t p f
  /-- A folder is where the file should be. -/
  | folder {place : Place} : t.reach p = .ok (place, some .folder) → Obstacle t p .isDirectory

/-! ### Where steps stop -/

lemma walk_of_stops (h : t.Stops place s f) : t.walk place (s :: steps) = .error f := by
  cases h with
  | missing hfind => cases s <;> simp [walk, hfind]
  | file hfind => cases s <;> simp [walk, hfind]
  | long hfind hname => simp [walk, hfind, hname]

/-- A step stops, or it is taken from a folder. -/
lemma stops_or_goesOn (t : Tree) (place : Place) (s : PathStep) :
    (∃ f, t.Stops place s f) ∨
      t.find? place = some .folder ∧ ∃ next, stepFrom place s = some next := by
  rcases hfind : t.find? place with _ | _ | ⟨n, c⟩
  · exact .inl ⟨_, .missing hfind⟩
  · cases s with
    | stay => exact .inr ⟨rfl, _, rfl⟩
    | up => exact .inr ⟨rfl, _, rfl⟩
    | down name =>
      by_cases hname : nameLimit < name.bytes.length
      · exact .inl ⟨_, .long hfind hname⟩
      · exact .inr ⟨rfl, _, if_neg hname⟩
  · exact .inl ⟨_, .file hfind⟩

lemma walk_of_goesOn {next : Place} (hfind : t.find? place = some .folder)
    (hnext : stepFrom place s = some next) : t.walk place (s :: steps) = t.walk next steps := by
  cases s with
  | stay =>
    cases hnext
    simp [walk, hfind]
  | up =>
    cases hnext
    simp [walk, hfind]
  | down name =>
    by_cases hname : name.bytes.length > nameLimit
    · rw [stepFrom, if_pos hname] at hnext
      cases hnext
    · rw [stepFrom, if_neg hname] at hnext
      cases hnext
      simp [walk, hfind, hname]

lemma walk_append_of_ok {before : List PathStep} {q : Place} (h : t.walk place before = .ok q) :
    t.walk place (before ++ steps) = t.walk q steps := by
  induction before generalizing place with
  | nil =>
    cases h
    rfl
  | cons s before ih =>
    obtain ⟨hfind, next, hnext, hrest⟩ := walk_cons_eq_ok_iff.1 h
    rw [List.cons_append, walk_of_goesOn hfind hnext]
    exact ih hrest

/-- Steps that fail stop at one of them. -/
lemma walk_eq_error_iff : t.walk place steps = .error f ↔
    ∃ before s after q, steps = before ++ s :: after ∧ t.walk place before = .ok q ∧
      t.Stops q s f := by
  constructor
  · intro h
    induction steps generalizing place with
    | nil => cases h
    | cons s steps ih =>
      obtain ⟨g, hstops⟩ | ⟨hfind, next, hnext⟩ := t.stops_or_goesOn place s
      · rw [walk_of_stops hstops] at h
        cases h
        exact ⟨[], s, steps, place, rfl, rfl, hstops⟩
      · rw [walk_of_goesOn hfind hnext] at h
        obtain ⟨before, s', after, q, rfl, hbefore, hstops⟩ := ih h
        refine ⟨s :: before, s', after, q, rfl, ?_, hstops⟩
        rw [walk_of_goesOn hfind hnext, hbefore]
  · rintro ⟨before, s, after, q, rfl, hbefore, hstops⟩
    rw [walk_append_of_ok hbefore, walk_of_stops hstops]

lemma reach_eq_error_iff : t.reach p = .error f ↔
    stepsTo p = .error f ∨ ∃ steps, stepsTo p = .ok steps ∧ t.walk [] steps = .error f := by
  rw [reach, bind_eq_error_iff]
  refine or_congr_right (exists_congr fun steps => and_congr_right fun _ => ?_)
  rw [bind_eq_error_iff]
  refine or_iff_left ?_
  rintro ⟨_, _, h⟩
  cases h

/-! ### What stands in the way of a file -/

lemma openOrMake_of_reach_error (h : t.reach p = .error f) : t.openOrMake p = .error f := by
  rw [openOrMake, lookForFile, h]

lemma Obstacle.openOrMake (h : t.Obstacle p f) : t.openOrMake p = .error f := by
  cases h with
  | path hpath => exact openOrMake_of_reach_error (reach_eq_error_iff.2 (.inl hpath))
  | @step before after s place f hsteps hbefore hstops =>
    have hwalk : t.walk [] (before ++ s :: after) = .error f :=
      walk_eq_error_iff.2 ⟨before, s, after, place, rfl, hbefore, hstops⟩
    exact openOrMake_of_reach_error (reach_eq_error_iff.2 (.inr ⟨_, hsteps, hwalk⟩))
  | folder hreach =>
    rw [Tree.openOrMake, lookForFile, hreach]
    cases p.endsInSlash <;> rfl

/-- **Obstacles.**  If its path does not ask for a folder, a file cannot be opened exactly if there is
an obstacle. -/
theorem openOrMake_eq_error_iff (hslash : p.endsInSlash = false) :
    t.openOrMake p = .error f ↔ t.Obstacle p f := by
  refine ⟨fun h => ?_, Obstacle.openOrMake⟩
  rcases hreach : t.reach p with g | ⟨place, o⟩
  · rw [openOrMake_of_reach_error hreach] at h
    cases h
    obtain hpath | ⟨steps, hsteps, hwalk⟩ := reach_eq_error_iff.1 hreach
    · exact .path hpath
    · obtain ⟨before, s, after, q, rfl, hbefore, hstops⟩ := walk_eq_error_iff.1 hwalk
      exact .step hsteps hbefore hstops
  · have hfound : t.lookForFile p = .ok (place, o) := lookForFile_eq_ok_iff.2 ⟨hslash, hreach⟩
    rw [Tree.openOrMake, hfound] at h
    rcases o with _ | _ | ⟨n, c⟩
    · cases h
    · cases h
      exact .folder hreach
    · cases h

end LaunchGuard.Tree
