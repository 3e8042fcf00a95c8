/-
# Changes to the tree of files

A change finds its place by following a path, and then adds something there, replaces a file or takes
one out.  Where steps led through folders, they still lead as long as the folders stay.
-/
import LaunchGuard.Files.Tree
import LaunchGuard.Proofs.Entries
import LaunchGuard.Proofs.Outcomes

namespace LaunchGuard.Tree

variable {t t' : Tree} {p : Path} {place : Place}

/-! ### Following a path -/

lemma find?_of_ne_nil (h : place ≠ []) : t.find? place = t.nodes.lookup place := if_neg h

lemma ne_nil_of_find?_file {n : Nat} {c : List UInt8} (h : t.find? place = some (.file n c)) :
    place ≠ [] := by
  rintro rfl
  cases h

/-- Where a step leads from a folder, unless its name is too long. -/
def stepFrom (place : Place) : PathStep → Option Place
  | .stay => some place
  | .up => some place.dropLast
  | .down name => if name.bytes.length > nameLimit then none else some (place ++ [name])

lemma eq_of_stepFrom_down {name : Spelling} {next : Place}
    (h : stepFrom place (.down name) = some next) : next = place ++ [name] := by
  rw [stepFrom] at h
  split at h
  · cases h
  · exact (Option.some.inj h).symm

/-- The first of some steps is taken from a folder, and the others from where it leads. -/
lemma walk_cons_eq_ok_iff {s : PathStep} {steps : List PathStep} {q : Place} :
    t.walk place (s :: steps) = .ok q ↔
      t.find? place = some .folder ∧
        ∃ next, stepFrom place s = some next ∧ t.walk next steps = .ok q := by
  rcases hf : t.find? place with _ | _ | ⟨n, c⟩
  · cases s <;> simp [walk, hf]
  · cases s with
    | stay => simp [walk, hf, stepFrom]
    | up => simp [walk, hf, stepFrom]
    | down name =>
      by_cases hname : name.bytes.length > nameLimit
      · simp [walk, hf, stepFrom, hname]
      · simp [walk, hf, stepFrom, hname]
  · cases s <;> simp [walk, hf]

/-- The system takes a path that is short enough and has no NUL byte. -/
lemma stepsTo_eq_ok_iff {steps : List PathStep} :
    stepsTo p = .ok steps ↔
      0 ∉ p.bytes ∧ p.bytes.length ≤ pathLimit ∧ p.steps = steps := by
  rw [stepsTo]
  split
  · next hnul => simp [hnul]
  split
  · next hnul hlong => simp [Nat.not_le.2 hlong]
  · next hnul hshort => simp [hnul, Nat.not_lt.1 hshort]

lemma steps_of_stepsTo {steps : List PathStep} (h : stepsTo p = .ok steps) : p.steps = steps :=
  (stepsTo_eq_ok_iff.1 h).2.2

lemma reach_eq_ok_iff {o : Option Node} :
    t.reach p = .ok (place, o) ↔
      ∃ steps, stepsTo p = .ok steps ∧ t.walk [] steps = .ok place ∧ t.find? place = o := by
  rw [reach, bind_eq_ok_iff]
  refine exists_congr fun steps => and_congr_right fun _ => ?_
  rw [bind_eq_ok_iff]
  constructor
  · rintro ⟨q, hwalk, hq⟩
    cases hq
    exact ⟨hwalk, rfl⟩
  · rintro ⟨hwalk, rfl⟩
    exact ⟨place, hwalk, rfl⟩

lemma lookForFile_eq_ok_iff {found : Place × Option Node} :
    t.lookForFile p = .ok found ↔ p.endsInSlash = false ∧ t.reach p = .ok found := by
  rw [lookForFile]
  cases t.reach p with
  | error f => simp
  | ok found' => cases p.endsInSlash <;> simp

lemma find?_of_lookForFile {o : Option Node} (h : t.lookForFile p = .ok (place, o)) :
    t.find? place = o := by
  obtain ⟨-, hreach⟩ := lookForFile_eq_ok_iff.1 h
  obtain ⟨-, -, -, hfind⟩ := reach_eq_ok_iff.1 hreach
  exact hfind

/-- A file is found in the same way whether it is to be used or to be opened. -/
lemma look_eq_file_iff {n : Nat} {c : List UInt8} :
    t.look p = .ok (place, some (.file n c)) ↔ t.lookForFile p = .ok (place, some (.file n c)) := by
  rw [lookForFile_eq_ok_iff, look]
  split
  · next q m d h => cases hslash : p.endsInSlash <;> simp [h]
  · next hnot =>
    exact ⟨fun h => absurd h (hnot place n c), fun h => h.2⟩

/-- Steps are taken one part after the other. -/
lemma walk_append_eq_ok_iff {a b : List PathStep} {q : Place} :
    t.walk place (a ++ b) = .ok q ↔
      ∃ middle, t.walk place a = .ok middle ∧ t.walk middle b = .ok q := by
  induction a generalizing place with
  | nil =>
    constructor
    · exact fun h => ⟨place, rfl, h⟩
    · rintro ⟨_, ⟨⟩, h⟩
      exact h
  | cons s a ih =>
    rw [List.cons_append, walk_cons_eq_ok_iff]
    constructor
    · rintro ⟨hfolder, next, hnext, hrest⟩
      obtain ⟨middle, ha, hb⟩ := ih.1 hrest
      exact ⟨middle, walk_cons_eq_ok_iff.2 ⟨hfolder, next, hnext, ha⟩, hb⟩
    · rintro ⟨middle, ha, hb⟩
      obtain ⟨hfolder, next, hnext, hrest⟩ := walk_cons_eq_ok_iff.1 ha
      exact ⟨hfolder, next, hnext, ih.2 ⟨middle, hrest, hb⟩⟩

/-- Where steps led, they still lead if the folders stay: only the last of the steps may end at
something else than a folder. -/
lemma walk_mono (h : ∀ q, t.find? q = some .folder → t'.find? q = some .folder)
    {steps : List PathStep} {place q : Place} (hw : t.walk place steps = .ok q) :
    t'.walk place steps = .ok q := by
  induction steps generalizing place with
  | nil => exact hw
  | cons s steps ih =>
    obtain ⟨hfolder, next, hnext, hrest⟩ := walk_cons_eq_ok_iff.1 hw
    exact walk_cons_eq_ok_iff.2 ⟨h place hfolder, next, hnext, ih hrest⟩

/-- A path leads to the same place as before, whatever is there now. -/
lemma reach_mono (h : ∀ q, t.find? q = some .folder → t'.find? q = some .folder)
    {o : Option Node} (hr : t.reach p = .ok (place, o)) :
    t'.reach p = .ok (place, t'.find? place) := by
  obtain ⟨steps, hsteps, hwalk, -⟩ := reach_eq_ok_iff.1 hr
  exact reach_eq_ok_iff.2 ⟨steps, hsteps, walk_mono h hwalk, rfl⟩

lemma lookForFile_mono (h : ∀ q, t.find? q = some .folder → t'.find? q = some .folder)
    {o : Option Node} (hfound : t.lookForFile p = .ok (place, o)) :
    t'.lookForFile p = .ok (place, t'.find? place) := by
  obtain ⟨hslash, hreach⟩ := lookForFile_eq_ok_iff.1 hfound
  exact lookForFile_eq_ok_iff.2 ⟨hslash, reach_mono h hreach⟩

/-! ### What is where after a change -/

lemma find?_append (t : Tree) (place q : Place) (n : Node) (k : Nat) :
    (⟨t.nodes ++ [(place, n)], k⟩ : Tree).find? q =
      (t.find? q).or (if q = place then some n else none) := by
  by_cases hq : q = []
  · subst hq
    rfl
  · rw [find?_of_ne_nil hq, find?_of_ne_nil hq, List.lookup_append]
    by_cases hp : q = place
    · rw [hp, List.lookup_cons_self, if_pos rfl]
    · rw [lookup_cons_of_ne hp, if_neg hp, List.lookup_nil]

lemma find?_replace_of_ne (t : Tree) {q : Place} (hq : q ≠ place) (n : Node) :
    (t.replace place n).find? q = t.find? q := by
  by_cases hnil : q = []
  · subst hnil
    rfl
  · rw [find?_of_ne_nil hnil, find?_of_ne_nil hnil, replace, lookup_replace, if_neg hq]

lemma find?_replace_self {m : Node} (hne : place ≠ []) (h : t.find? place = some m) (n : Node) :
    (t.replace place n).find? place = some n := by
  rw [find?_of_ne_nil hne] at h ⊢
  rw [replace, lookup_replace, if_pos rfl, h, Option.map_some]

/-- Taking out what is at a place shows at no other place. -/
lemma find?_without_of_ne (t : Tree) {q : Place} (hq : q ≠ place) :
    (⟨t.nodes.filter (·.1 ≠ place), t.next⟩ : Tree).find? q = t.find? q := by
  by_cases hnil : q = []
  · subst hnil
    rfl
  · rw [find?_of_ne_nil hnil, find?_of_ne_nil hnil, lookup_remove, if_neg hq]

lemma find?_without_self (t : Tree) (hne : place ≠ []) :
    (⟨t.nodes.filter (·.1 ≠ place), t.next⟩ : Tree).find? place = none := by
  rw [find?_of_ne_nil hne, lookup_remove, if_pos rfl]

/-! ### What a change does -/

lemma makeFolder_eq_ok (h : t.makeFolder p = .ok t') :
    ∃ place, t.reach p = .ok (place, none) ∧
      t' = ⟨t.nodes ++ [(place, .folder)], t.next⟩ := by
  rw [makeFolder] at h
  rcases hr : t.reach p with f | ⟨place, _ | n⟩
  · rw [hr] at h
    cases h
  · rw [hr] at h
    cases h
    exact ⟨place, rfl, rfl⟩
  · rw [hr] at h
    cases h

/-- What the making of each folder of a chain keeps holds after the whole chain, whether or not all
of the folders could be made. -/
lemma ensureChain_induction {motive : Tree → Prop} {ps : List Path}
    (hmake : ∀ p ∈ ps, ∀ t t', t.makeFolder p = .ok t' → motive t → motive t') (h : motive t) :
    motive (t.ensureChain ps).1 := by
  induction ps generalizing t with
  | nil => exact h
  | cons p above ih =>
    have hensure : ∀ t, motive t → motive (t.ensureFolder p).1 := by
      intro t ht
      rw [ensureFolder]
      cases hp : t.makeFolder p with
      | ok t' => exact hmake p (.head above) t t' hp ht
      | error f =>
        dsimp only
        split <;> exact ht
    have hfirst := hensure t h
    -- the folders above are made only if there is nothing yet to make the first one in
    rw [ensureChain]
    split
    · next t' hp =>
      rw [hp] at hfirst
      have habove := ih (fun q hq => hmake q (.tail p hq)) hfirst
      split
      · next t'' hrest =>
        rw [hrest] at habove
        exact hensure t'' habove
      · exact habove
    · exact hfirst

lemma write_eq_ok {content : List UInt8} (h : t.write p content = .ok t') :
    (∃ place, t.lookForFile p = .ok (place, none) ∧ t' = t.addFile place content) ∨
      ∃ place m c, t.lookForFile p = .ok (place, some (.file m c)) ∧
        t' = t.replace place (.file m content) := by
  rw [write] at h
  rcases hr : t.lookForFile p with f | ⟨place, _ | _ | ⟨m, c⟩⟩
  · rw [hr] at h
    cases h
  · rw [hr] at h
    cases h
    exact .inl ⟨place, rfl, rfl⟩
  · rw [hr] at h
    cases h
  · rw [hr] at h
    cases h
    exact .inr ⟨place, m, c, rfl, rfl⟩

lemma remove_eq_ok (h : t.remove p = .ok t') :
    ∃ place m c, t.lookForFile p = .ok (place, some (.file m c)) ∧
      t' = ⟨t.nodes.filter (·.1 ≠ place), t.next⟩ := by
  rw [remove] at h
  rcases hl : t.look p with f | ⟨place, _ | _ | ⟨m, c⟩⟩
  · rw [hl] at h
    cases h
  · rw [hl] at h
    cases h
  · rw [hl] at h
    cases h
  · rw [hl] at h
    cases h
    exact ⟨place, m, c, look_eq_file_iff.1 hl, rfl⟩

end LaunchGuard.Tree
