/-
# Files that stay

A change to the tree of files keeps every folder where it is, and every file but a removed one.  A
file that stays may get other bytes, but the paths that led to it still do.  A file that is made
gets a number that no file has had.
-/
import LaunchGuard.Proofs.Files.Changes

namespace LaunchGuard

namespace Tree

/-- The number of the file that a path leads to. -/
def fileAt? (t : Tree) (p : Path) : Option Nat :=
  match t.lookForFile p with
  | .ok (_, some (.file number _)) => some number
  | _ => none

/-- Two paths lead to the same file. -/
def SameFile (t : Tree) (p q : Path) : Prop := ∃ n, t.fileAt? p = some n ∧ t.fileAt? q = some n

/-- The numbers of all files have been given. -/
def Numbered (t : Tree) : Prop := ∀ place n c, t.find? place = some (.file n c) → n < t.next

/-- From the first tree to the second the folders stay, and so do the files of the given numbers;
every file that is new has a new number, and the numbers that were given stay given. -/
structure Keeps (files : Nat → Prop) (t t' : Tree) : Prop where
  folder : ∀ place, t.find? place = some .folder → t'.find? place = some .folder
  file : ∀ place n c, t.find? place = some (.file n c) → files n →
    ∃ c', t'.find? place = some (.file n c')
  numbered : t.Numbered → t'.Numbered
  next_le : t.next ≤ t'.next

variable {files : Nat → Prop} {t t' t'' : Tree} {p : Path} {place : Place}

/-! ### Files by their numbers -/

lemma fileAt?_eq_some_iff {n : Nat} :
    t.fileAt? p = some n ↔ ∃ place c, t.lookForFile p = .ok (place, some (.file n c)) := by
  rw [fileAt?]
  split
  · next place m c h =>
    simp only [h, Option.some.injEq, Except.ok.injEq, Prod.mk.injEq, Node.file.injEq]
    exact ⟨fun h => ⟨place, c, rfl, h, rfl⟩, fun ⟨_, _, _, h, _⟩ => h⟩
  · next h => exact ⟨nofun, fun ⟨place, c, hfound⟩ => absurd hfound (h place n c)⟩

lemma Numbered.fileAt?_lt (ht : t.Numbered) {n : Nat} (h : t.fileAt? p = some n) : n < t.next := by
  obtain ⟨place, c, hfound⟩ := fileAt?_eq_some_iff.1 h
  exact ht place n c (find?_of_lookForFile hfound)

namespace Keeps

lemma refl (t : Tree) : Keeps files t t where
  folder _ h := h
  file _ _ c h _ := ⟨c, h⟩
  numbered h := h
  next_le := Nat.le_refl _

lemma trans (h : Keeps files t t') (h' : Keeps files t' t'') : Keeps files t t'' where
  folder place hf := h'.folder place (h.folder place hf)
  file place n c hf hn := by
    obtain ⟨c', hf'⟩ := h.file place n c hf hn
    exact h'.file place n c' hf' hn
  numbered ht := h'.numbered (h.numbered ht)
  next_le := Nat.le_trans h.next_le h'.next_le

lemma mono {files' : Nat → Prop} (h : Keeps files t t') (hsub : ∀ n, files' n → files n) :
    Keeps files' t t' where
  folder := h.folder
  file place n c hf hn := h.file place n c hf (hsub n hn)
  numbered := h.numbered
  next_le := h.next_le

lemma fileAt? (h : Keeps files t t') {n : Nat} (hf : t.fileAt? p = some n) (hn : files n) :
    t'.fileAt? p = some n := by
  obtain ⟨place, c, hfound⟩ := fileAt?_eq_some_iff.1 hf
  obtain ⟨c', hfind⟩ := h.file place n c (find?_of_lookForFile hfound) hn
  exact fileAt?_eq_some_iff.2 ⟨place, c', by rw [lookForFile_mono h.folder hfound, hfind]⟩

end Keeps

/-! ### What the changes keep -/

/-- What is added at the end of the list is found only where there was nothing. -/
lemma keeps_append {n : Node} {k : Nat} (hk : t.next ≤ k)
    (hn : ∀ m c, n = .file m c → m < k) : Keeps files t ⟨t.nodes ++ [(place, n)], k⟩ where
  folder q hf := by rw [find?_append, hf, Option.some_or]
  file q m c hf _ := ⟨c, by rw [find?_append, hf, Option.some_or]⟩
  numbered ht q m c hf := by
    rw [find?_append, Option.or_eq_some_iff] at hf
    rcases hf with hf | ⟨-, hf⟩
    · exact Nat.lt_of_lt_of_le (ht q m c hf) hk
    · split at hf
      · exact hn m c (Option.some.inj hf)
      · cases hf
  next_le := hk

lemma keeps_addFile (t : Tree) (place : Place) (content : List UInt8) :
    Keeps files t (t.addFile place content) := by
  refine keeps_append (Nat.le_succ _) ?_
  rintro m c ⟨⟩
  exact Nat.lt_succ_self _

/-- A file may be given other bytes. -/
lemma keeps_replace {m : Nat} {c : List UInt8} (h : t.find? place = some (.file m c))
    (c' : List UInt8) : Keeps files t (t.replace place (.file m c')) := by
  have hplace := find?_replace_self (ne_nil_of_find?_file h) h (.file m c')
  refine ⟨fun q hf => ?_, fun q n d hf _ => ?_, fun ht q n d hf => ?_, Nat.le_refl _⟩
  -- at the place itself there is the same file before and after, elsewhere nothing changes
  · by_cases hq : q = place
    · subst hq
      exact nomatch h.symm.trans hf
    · rw [find?_replace_of_ne t hq, hf]
  · by_cases hq : q = place
    · subst hq
      cases h.symm.trans hf
      exact ⟨c', hplace⟩
    · exact ⟨d, by rw [find?_replace_of_ne t hq, hf]⟩
  · by_cases hq : q = place
    · subst hq
      cases hplace.symm.trans hf
      exact ht q m c h
    · rw [find?_replace_of_ne t hq] at hf
      exact ht q n d hf

lemma keeps_makeFolder (h : t.makeFolder p = .ok t') : Keeps files t t' := by
  obtain ⟨place, -, rfl⟩ := makeFolder_eq_ok h
  exact keeps_append (Nat.le_refl _) nofun

lemma keeps_ensureChain (t : Tree) (ps : List Path) : Keeps files t (t.ensureChain ps).1 :=
  ensureChain_induction (fun _ _ _ _ hmake hkeeps => hkeeps.trans (keeps_makeFolder hmake))
    (Keeps.refl t)

lemma keeps_write {content : List UInt8} (h : t.write p content = .ok t') : Keeps files t t' := by
  obtain ⟨place, -, rfl⟩ | ⟨place, m, c, hfound, rfl⟩ := write_eq_ok h
  · exact keeps_addFile t place content
  · exact keeps_replace (find?_of_lookForFile hfound) content

/-- One file can be removed, and it is the one that the path leads to. -/
lemma keeps_remove (h : t.remove p = .ok t') :
    ∃ n, t.fileAt? p = some n ∧ Keeps (· ≠ n) t t' := by
  obtain ⟨place, m, c, hfound, rfl⟩ := remove_eq_ok h
  have hfind := find?_of_lookForFile hfound
  have hgone := find?_without_self t (ne_nil_of_find?_file hfind)
  refine ⟨m, fileAt?_eq_some_iff.2 ⟨place, c, hfound⟩, fun q hf => ?_, fun q n d hf hn => ?_,
    fun ht q n d hf => ?_, Nat.le_refl _⟩
  · rw [find?_without_of_ne t, hf]
    rintro rfl
    exact nomatch hfind.symm.trans hf
  · refine ⟨d, ?_⟩
    rw [find?_without_of_ne t, hf]
    rintro rfl
    cases hfind.symm.trans hf
    exact hn rfl
  · have hq : q ≠ place := by
      rintro rfl
      exact nomatch hgone.symm.trans hf
    rw [find?_without_of_ne t hq] at hf
    exact ht q n d hf

/-- The file that is opened is the one that the path leads to, or one that is made there. -/
lemma openOrMake_eq_ok {n : Nat} (h : t.openOrMake p = .ok (n, t')) :
    t.fileAt? p = some n ∧ t' = t ∨
      t.fileAt? p = none ∧ n = t.next ∧ t'.fileAt? p = some n ∧
        ∃ place, t' = t.addFile place [] := by
  rw [openOrMake] at h
  rcases hr : t.lookForFile p with f | ⟨place, _ | _ | ⟨m, c⟩⟩
  · rw [hr] at h
    cases h
  · rw [hr] at h
    cases h
    have hgrow : Keeps (fun _ => True) t (t.addFile place []) := keeps_addFile t place []
    have hnew : (t.addFile place []).find? place = some (.file t.next []) := by
      rw [addFile, find?_append, find?_of_lookForFile hr, if_pos rfl, Option.none_or]
    refine .inr ⟨by rw [fileAt?, hr], rfl, ?_, place, rfl⟩
    exact fileAt?_eq_some_iff.2 ⟨place, [], by rw [lookForFile_mono hgrow.folder hr, hnew]⟩
  · rw [hr] at h
    cases h
  · rw [hr] at h
    cases h
    exact .inl ⟨fileAt?_eq_some_iff.2 ⟨place, c, hr⟩, rfl⟩

lemma openOrMake_of_fileAt? {n : Nat} (h : t.fileAt? p = some n) :
    t.openOrMake p = .ok (n, t) := by
  obtain ⟨place, c, hfound⟩ := fileAt?_eq_some_iff.1 h
  rw [openOrMake, hfound]

lemma keeps_openOrMake {n : Nat} (h : t.openOrMake p = .ok (n, t')) : Keeps files t t' := by
  obtain ⟨-, rfl⟩ | ⟨-, -, -, place, rfl⟩ := openOrMake_eq_ok h
  · exact Keeps.refl _
  · exact keeps_addFile t place []

lemma fileAt?_openOrMake {n : Nat} (h : t.openOrMake p = .ok (n, t')) : t'.fileAt? p = some n := by
  obtain ⟨hfile, rfl⟩ | ⟨-, -, hfile, -⟩ := openOrMake_eq_ok h
  · exact hfile
  · exact hfile

end Tree

end LaunchGuard
