/-
# Files that are added

Opening a missing file makes it, and apart from this the locks leave the tree alone.  Where no folder
comes or goes, a path leads to the same place as before or to none as before; only why it leads to
none may change, when a file has come to be where nothing was.

So two trees that have grown from one by such files open a path in the same way, if they agree on
what is missing at the end of the path and on the way to it.
-/
import LaunchGuard.Proofs.Files.Keeping

namespace LaunchGuard.Tree

/-- From the first tree to the second nothing goes or changes, and nothing comes but files. -/
structure AddsFiles (t t' : Tree) : Prop where
  stays : ∀ place n, t.find? place = some n → t'.find? place = some n
  added : ∀ place, t.find? place = none → t'.find? place ≠ some .folder

/-- Every file has a number of its own, and all numbers in use have been given. -/
structure Counted (t : Tree) : Prop where
  numbered : t.Numbered
  single : ∀ place place' k c c', t.find? place = some (.file k c) →
    t.find? place' = some (.file k c') → place = place'

/-- The place of the file that is opened, or made, at a path. -/
def filePlace? (t : Tree) (p : Path) : Option Place :=
  match t.lookForFile p with
  | .ok (_, some .folder) => none
  | .ok (place, _) => some place
  | .error _ => none

/-- The path leads to a place and has steps left there. -/
def LeadsThrough (t : Tree) (p : Path) (place : Place) : Prop :=
  ∃ before s after, stepsTo p = .ok (before ++ s :: after) ∧ t.walk [] before = .ok place

/-- The file of `p'` is not that of `p`, and if it is missing still, it will not stand in the way
of `p` either. -/
def Apart (t : Tree) (p p' : Path) : Prop :=
  ∀ place, t.filePlace? p' = some place →
    t.filePlace? p ≠ some place ∧ (t.find? place = none → ¬t.LeadsThrough p place)

/-- Two trees agree on what is missing, at the places that matter when `p` is opened in a tree which
both have grown from. -/
def AgreeOn (t₀ : Tree) (p : Path) (t t' : Tree) : Prop :=
  ∀ place, t₀.LeadsThrough p place ∨ t₀.filePlace? p = some place →
    (t.find? place = none ↔ t'.find? place = none)

variable {t₀ t t' : Tree} {p : Path} {place : Place}

/-! ### The place of a file -/

lemma filePlace?_eq_some_iff :
    t.filePlace? p = some place ↔
      t.lookForFile p = .ok (place, t.find? place) ∧ t.find? place ≠ some .folder := by
  rw [filePlace?]
  cases h : t.lookForFile p with
  | error f => simp
  | ok found =>
    obtain ⟨q, o⟩ := found
    have hfind := find?_of_lookForFile h
    have hplace : (.ok (q, o) : Except Fault (Place × Option Node)) =
        .ok (place, t.find? place) ↔ q = place := by
      constructor
      · exact fun heq => (Prod.mk.inj (Except.ok.inj heq)).1
      · rintro rfl
        rw [hfind]
    rw [hplace]
    rcases o with _ | _ | ⟨k, c⟩
    · refine ⟨fun heq => ?_, fun heq => congrArg some heq.1⟩
      obtain rfl := Option.some.inj heq
      simp [hfind]
    · refine ⟨nofun, fun heq => absurd ?_ heq.2⟩
      rw [← heq.1, hfind]
    · refine ⟨fun heq => ?_, fun heq => congrArg some heq.1⟩
      obtain rfl := Option.some.inj heq
      simp [hfind]

/-- The file at a path is the one at its place. -/
lemma exists_place_of_fileAt? {k : Nat} (h : t.fileAt? p = some k) :
    ∃ place c, t.filePlace? p = some place ∧ t.find? place = some (.file k c) := by
  obtain ⟨place, c, hfound⟩ := fileAt?_eq_some_iff.1 h
  have hfind := find?_of_lookForFile hfound
  refine ⟨place, c, filePlace?_eq_some_iff.2 ⟨by rw [hfound, hfind], by simp [hfind]⟩, hfind⟩

/-- A path with a place for its file leads through folders only, so nothing is missing on it. -/
lemma not_leadsThrough_of_filePlace? {through : Place} (h : t.filePlace? p = some place)
    (hnone : t.find? through = none) : ¬t.LeadsThrough p through := by
  rintro ⟨before, s, after, hsteps, hthrough⟩
  obtain ⟨hfound, -⟩ := filePlace?_eq_some_iff.1 h
  obtain ⟨steps, hsteps', hwalk, -⟩ := reach_eq_ok_iff.1 (lookForFile_eq_ok_iff.1 hfound).2
  cases hsteps.symm.trans hsteps'
  obtain ⟨middle, hmiddle, hrest⟩ := walk_append_eq_ok_iff.1 hwalk
  cases hthrough.symm.trans hmiddle
  exact nomatch hnone.symm.trans (walk_cons_eq_ok_iff.1 hrest).1

/-- Where both files can be opened, it is enough that they are two. -/
lemma apart_of_places {p' : Path} {place' : Place} (h : t.filePlace? p = some place)
    (h' : t.filePlace? p' = some place') (hne : place ≠ place') : t.Apart p p' := by
  intro q hq
  obtain rfl := Option.some.inj (h'.symm.trans hq)
  refine ⟨?_, not_leadsThrough_of_filePlace? h⟩
  rw [h]
  exact fun heq => hne (Option.some.inj heq)

/-! ### Paths among more files -/

namespace AddsFiles

lemma refl (t : Tree) : AddsFiles t t where
  stays _ _ h := h
  added place h := by simp [h]

lemma folder_iff (h : AddsFiles t t') :
    t'.find? place = some .folder ↔ t.find? place = some .folder := by
  constructor
  · intro hf
    cases hfind : t.find? place with
    | none => exact absurd hf (h.added place hfind)
    | some n => rw [← h.stays place n hfind, hf]
  · exact h.stays place .folder

lemma trans {t'' : Tree} (h : AddsFiles t t') (h' : AddsFiles t' t'') : AddsFiles t t'' where
  stays place n hf := h'.stays place n (h.stays place n hf)
  added place hnone := by
    rw [Ne, h'.folder_iff, h.folder_iff, hnone]
    nofun

/-- No further path leads anywhere, and none leads elsewhere. -/
lemma walk_iff (h : AddsFiles t t') {steps : List PathStep} {place q : Place} :
    t'.walk place steps = .ok q ↔ t.walk place steps = .ok q :=
  ⟨walk_mono fun _ => h.folder_iff.1, walk_mono fun _ => h.folder_iff.2⟩

lemma lookForFile_iff (h : AddsFiles t t') :
    t'.lookForFile p = .ok (place, t'.find? place) ↔
      t.lookForFile p = .ok (place, t.find? place) :=
  ⟨lookForFile_mono fun _ => h.folder_iff.1, lookForFile_mono fun _ => h.folder_iff.2⟩

/-- The files of all paths stay in their places, those that are missing too. -/
lemma filePlace?_eq (h : AddsFiles t t') : t'.filePlace? p = t.filePlace? p := by
  ext place
  rw [filePlace?_eq_some_iff, filePlace?_eq_some_iff, h.lookForFile_iff, Ne, h.folder_iff]

end AddsFiles

lemma addsFiles_addFile (t : Tree) (place : Place) (content : List UInt8) :
    AddsFiles t (t.addFile place content) where
  stays q n hf := by rw [addFile, find?_append, hf, Option.some_or]
  added q hq := by
    rw [addFile, find?_append, hq, Option.none_or]
    split <;> simp

/-! ### Opening a file -/

/-- A path is opened exactly if it has a place for a file: the file there is found, or made. -/
lemma openOrMake_eq_ok_iff {k : Nat} :
    t.openOrMake p = .ok (k, t') ↔
      ∃ place, t.filePlace? p = some place ∧
        ((∃ c, t.find? place = some (.file k c)) ∧ t' = t ∨
          t.find? place = none ∧ k = t.next ∧ t' = t.addFile place []) := by
  rw [openOrMake, filePlace?]
  rcases h : t.lookForFile p with f | ⟨q, _ | _ | ⟨m, c⟩⟩
  · simp
  · have hfind := find?_of_lookForFile h
    simp only [Except.ok.injEq, Prod.mk.injEq, Option.some.injEq, exists_eq_left', hfind,
      reduceCtorEq, exists_false, false_and, false_or, true_and]
    constructor
    · rintro ⟨rfl, rfl⟩
      exact ⟨rfl, rfl⟩
    · rintro ⟨rfl, rfl⟩
      exact ⟨rfl, rfl⟩
  · simp
  · have hfind := find?_of_lookForFile h
    simp only [Except.ok.injEq, Prod.mk.injEq, Option.some.injEq, exists_eq_left', hfind,
      Node.file.injEq, reduceCtorEq, false_and, or_false]
    constructor
    · rintro ⟨rfl, rfl⟩
      exact ⟨⟨c, rfl, rfl⟩, rfl⟩
    · rintro ⟨⟨_, rfl, -⟩, rfl⟩
      exact ⟨rfl, rfl⟩

lemma addsFiles_openOrMake {k : Nat} (h : t.openOrMake p = .ok (k, t')) : AddsFiles t t' := by
  obtain ⟨place, -, ⟨-, rfl⟩ | ⟨-, -, rfl⟩⟩ := openOrMake_eq_ok_iff.1 h
  · exact .refl t'
  · exact addsFiles_addFile t place []

/-- Opening a path leaves nothing missing at its place, and makes nothing else. -/
lemma find?_openOrMake_eq_none {k : Nat} {q : Place} (h : t.openOrMake p = .ok (k, t'))
    (hplace : t.filePlace? p = some place) :
    t'.find? q = none ↔ t.find? q = none ∧ q ≠ place := by
  obtain ⟨place', hplace', hopen⟩ := openOrMake_eq_ok_iff.1 h
  obtain rfl : place = place' := Option.some.inj (hplace.symm.trans hplace')
  rcases hopen with ⟨⟨c, hfind⟩, rfl⟩ | ⟨-, -, rfl⟩
  · refine ⟨fun hq => ⟨hq, ?_⟩, fun hq => hq.1⟩
    rintro rfl
    exact nomatch hfind.symm.trans hq
  · rw [addFile, find?_append]
    by_cases hq : q = place <;> simp [hq]

/-- Steps end in the same way in two trees with the same kind of thing at each place on the way. -/
lemma walk_congr {steps : List PathStep}
    (h : ∀ before s after q, steps = before ++ s :: after → t.walk place before = .ok q →
      (t.find? q = none ↔ t'.find? q = none) ∧
        (t.find? q = some .folder ↔ t'.find? q = some .folder)) :
    t.walk place steps = t'.walk place steps := by
  induction steps generalizing place with
  | nil => rfl
  | cons s steps ih =>
    obtain ⟨hnone, hfolder⟩ := h [] s steps place rfl rfl
    have hrest : ∀ next, t.find? place = some .folder → stepFrom place s = some next →
        t.walk next steps = t'.walk next steps := by
      intro next hf hnext
      refine ih fun before s' after q hsteps hwalk => ?_
      exact h (s :: before) s' after q (by rw [hsteps, List.cons_append])
        (walk_cons_eq_ok_iff.2 ⟨hf, next, hnext, hwalk⟩)
    rw [walk.eq_def, walk.eq_def]
    dsimp only
    rcases hfind : t.find? place with _ | _ | ⟨k, c⟩
    · rw [hnone.1 hfind]
    · rw [hfolder.1 hfind]
      cases s with
      | stay => exact hrest place hfind rfl
      | up => exact hrest place.dropLast hfind rfl
      | down name =>
        dsimp only
        split
        · rfl
        · next hshort => exact hrest (place ++ [name]) hfind (if_neg hshort)
    · -- what is neither missing nor a folder is a file in both
      rcases hfind' : t'.find? place with _ | _ | ⟨k', c'⟩
      · cases hfind.symm.trans (hnone.2 hfind')
      · cases hfind.symm.trans (hfolder.2 hfind')
      · rfl

/-- Two trees that have grown from one open a path alike, if they agree on what is missing along it:
both find or make the file, or both fail for the same cause. -/
lemma openOrMake_alike (h : AddsFiles t₀ t) (h' : AddsFiles t₀ t') (hagree : AgreeOn t₀ p t t') :
    (t.openOrMake p).map (fun _ => ()) = (t'.openOrMake p).map fun _ => () := by
  have hfolder : ∀ q, t.find? q = some .folder ↔ t'.find? q = some .folder := fun q =>
    h.folder_iff.trans h'.folder_iff.symm
  rw [openOrMake, openOrMake, lookForFile, lookForFile, reach, reach]
  cases hsteps : stepsTo p with
  | error f => rfl
  | ok steps =>
    have hwalk : t.walk [] steps = t'.walk [] steps := by
      refine walk_congr fun before s after q hcut hq => ⟨hagree q (.inl ?_), hfolder q⟩
      exact ⟨before, s, after, by rw [hsteps, hcut], h.walk_iff.1 hq⟩
    rw [ok_bind, ok_bind, ← hwalk]
    cases hq : t.walk [] steps with
    | error f => rfl
    | ok q =>
      rw [ok_bind, ok_bind]
      by_cases hslash : p.endsInSlash = true
      · simp [pure, Except.pure, hslash, Except.map]
      · -- at the end of the path only a missing file need be agreed on
        have hnone : t.find? q ≠ some .folder → (t.find? q = none ↔ t'.find? q = none) := by
          intro hnot
          have hnot₀ : t₀.find? q ≠ some .folder := fun hf => hnot (h.folder_iff.2 hf)
          refine hagree q (.inr (filePlace?_eq_some_iff.2 ⟨?_, hnot₀⟩))
          exact lookForFile_eq_ok_iff.2 ⟨by simpa using hslash,
            reach_eq_ok_iff.2 ⟨steps, hsteps, h.walk_iff.1 hq, rfl⟩⟩
        rcases hfind : t.find? q with _ | _ | ⟨k, c⟩
        · have hfind' := (hnone (by simp [hfind])).1 hfind
          simp [pure, Except.pure, hslash, Except.map, hfind']
        · have hfind' := (hfolder q).1 hfind
          simp [pure, Except.pure, hslash, Except.map, hfind']
        · have hsome : t'.find? q ≠ none := by
            rw [Ne, ← hnone (by simp [hfind]), hfind]
            exact Option.some_ne_none _
          have hnot : t'.find? q ≠ some .folder := by
            rw [Ne, ← hfolder q, hfind]
            simp
          rcases hfind' : t'.find? q with _ | _ | ⟨k', c'⟩
          · exact absurd hfind' hsome
          · exact absurd hfind' hnot
          · simp [pure, Except.pure, hslash, Except.map]

/-! ### Numbers of files -/

namespace Counted

lemma empty : Counted {} where
  numbered place k c h := by
    rw [find?_of_ne_nil (ne_nil_of_find?_file h)] at h
    cases h
  single place place' k c c' h := by
    rw [find?_of_ne_nil (ne_nil_of_find?_file h)] at h
    cases h

/-- Where no file is new, each keeps its number to itself. -/
lemma of_old (ht : t.Counted) (hnumbered : t'.Numbered)
    (h : ∀ place k c, t'.find? place = some (.file k c) → ∃ c', t.find? place = some (.file k c')) :
    t'.Counted where
  numbered := hnumbered
  single place place' k c c' hf hf' := by
    obtain ⟨d, hd⟩ := h place k c hf
    obtain ⟨d', hd'⟩ := h place' k c' hf'
    exact ht.single place place' k d d' hd hd'

/-- A new file gets a number that no file has. -/
lemma addFile (ht : t.Counted) (place : Place) (content : List UInt8) :
    (t.addFile place content).Counted := by
  have hold : ∀ q k c, (t.addFile place content).find? q = some (.file k c) →
      t.find? q = some (.file k c) ∨ q = place ∧ k = t.next := by
    intro q k c hf
    rw [Tree.addFile, find?_append, Option.or_eq_some_iff] at hf
    rcases hf with hf | ⟨-, hf⟩
    · exact .inl hf
    · split at hf
      · next hq =>
        cases hf
        exact .inr ⟨hq, rfl⟩
      · cases hf
  have hkeeps : Keeps (fun _ => True) t (t.addFile place content) := keeps_addFile t place content
  refine ⟨hkeeps.numbered ht.numbered, ?_⟩
  intro q q' k c c' hf hf'
  rcases hold q k c hf with hq | ⟨rfl, rfl⟩ <;> rcases hold q' _ c' hf' with hq' | ⟨rfl, hk⟩
  · exact ht.single q q' k c c' hq hq'
  · subst hk
    exact absurd (ht.numbered q _ c hq) (Nat.lt_irrefl _)
  · exact absurd (ht.numbered q' _ c' hq') (Nat.lt_irrefl _)
  · rfl

lemma makeFolder (ht : t.Counted) (h : t.makeFolder p = .ok t') : t'.Counted := by
  have hkeeps : Keeps (fun _ => True) t t' := keeps_makeFolder h
  refine ht.of_old (hkeeps.numbered ht.numbered) ?_
  obtain ⟨place, -, rfl⟩ := makeFolder_eq_ok h
  intro q k c hf
  rw [find?_append, Option.or_eq_some_iff] at hf
  rcases hf with hf | ⟨-, hf⟩
  · exact ⟨c, hf⟩
  · split at hf <;> cases hf

lemma write (ht : t.Counted) {content : List UInt8} (h : t.write p content = .ok t') :
    t'.Counted := by
  have hkeeps : Keeps (fun _ => True) t t' := keeps_write h
  obtain ⟨place, hfound, rfl⟩ | ⟨place, m, c, hfound, rfl⟩ := write_eq_ok h
  · exact ht.addFile place content
  · have hfind := find?_of_lookForFile hfound
    have hnew := find?_replace_self (ne_nil_of_find?_file hfind) hfind (.file m content)
    refine ht.of_old (hkeeps.numbered ht.numbered) fun q k d hf => ?_
    by_cases hq : q = place
    · subst hq
      cases hnew.symm.trans hf
      exact ⟨c, hfind⟩
    · rw [find?_replace_of_ne t hq] at hf
      exact ⟨d, hf⟩

lemma remove (ht : t.Counted) (h : t.remove p = .ok t') : t'.Counted := by
  obtain ⟨_, -, hkeeps⟩ := keeps_remove h
  obtain ⟨place, m, c, hfound, rfl⟩ := remove_eq_ok h
  have hgone := find?_without_self t (ne_nil_of_find?_file (find?_of_lookForFile hfound))
  refine ht.of_old (hkeeps.numbered ht.numbered) fun q k d hf => ?_
  have hq : q ≠ place := by
    rintro rfl
    exact nomatch hgone.symm.trans hf
  rw [find?_without_of_ne t hq] at hf
  exact ⟨d, hf⟩

lemma openOrMake (ht : t.Counted) {k : Nat} (h : t.openOrMake p = .ok (k, t')) : t'.Counted := by
  obtain ⟨place, -, ⟨-, rfl⟩ | ⟨-, -, rfl⟩⟩ := openOrMake_eq_ok_iff.1 h
  · exact ht
  · exact ht.addFile place []

end Counted

end LaunchGuard.Tree
