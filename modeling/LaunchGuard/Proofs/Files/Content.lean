/-
# What files hold

The bytes of a file are those that were written last through a path that leads to it.  Neither files
that are written elsewhere nor new folders change them.
-/
import LaunchGuard.Proofs.Files.Growing

namespace LaunchGuard.Tree

variable {ps : List Path} {t t' : Tree} {p q : Path} {place : Place} {c d : List UInt8}

lemma read_eq_ok_iff :
    t.read p = .ok c ↔ ∃ place k, t.lookForFile p = .ok (place, some (.file k c)) := by
  simp only [← look_eq_file_iff]
  rw [read]
  rcases t.look p with f | ⟨place, _ | _ | ⟨k, d⟩⟩
  · exact ⟨nofun, nofun⟩
  · exact ⟨nofun, nofun⟩
  · exact ⟨nofun, nofun⟩
  · constructor
    · rintro ⟨⟩
      exact ⟨place, k, rfl⟩
    · rintro ⟨_, _, ⟨⟩⟩
      rfl

lemma contains_of_read (h : t.read p = .ok c) : t.contains p = true := by
  obtain ⟨place, k, hfound⟩ := read_eq_ok_iff.1 h
  rw [contains, look_eq_file_iff.2 hfound]

/-- What is read through a path stays the same if the folders stay, and so does the file. -/
lemma read_mono (hfolder : ∀ q, t.find? q = some .folder → t'.find? q = some .folder)
    (hfile : ∀ place k, t.lookForFile p = .ok (place, some (.file k c)) →
      t'.find? place = some (.file k c)) (h : t.read p = .ok c) : t'.read p = .ok c := by
  obtain ⟨place, k, hfound⟩ := read_eq_ok_iff.1 h
  refine read_eq_ok_iff.2 ⟨place, k, ?_⟩
  rw [lookForFile_mono hfolder hfound, hfile place k hfound]

lemma Grows.read (h : Grows ps t t') (hr : t.read p = .ok c) : t'.read p = .ok c :=
  read_mono h.folder (fun place _ hfound => h.stays place _ (find?_of_lookForFile hfound)) hr

/-- What was written is read. -/
lemma read_of_write (h : t.write p c = .ok t') : t'.read p = .ok c := by
  have hkeeps : Keeps (fun _ => True) t t' := keeps_write h
  obtain ⟨place, hfound, rfl⟩ | ⟨place, k, d, hfound, rfl⟩ := write_eq_ok h
  · refine read_eq_ok_iff.2 ⟨place, t.next, ?_⟩
    rw [lookForFile_mono hkeeps.folder hfound, addFile, find?_append, find?_of_lookForFile hfound,
      if_pos rfl, Option.none_or]
  · have hfind := find?_of_lookForFile hfound
    refine read_eq_ok_iff.2 ⟨place, k, ?_⟩
    rw [lookForFile_mono hkeeps.folder hfound,
      find?_replace_self (ne_nil_of_find?_file hfind) hfind]

/-- To write another file does not change what is read. -/
lemma read_of_write_other (h : t.write q d = .ok t') (hne : ¬t.SameFile q p)
    (hr : t.read p = .ok c) : t'.read p = .ok c := by
  have hkeeps : Keeps (fun _ => True) t t' := keeps_write h
  refine read_mono hkeeps.folder (fun place k hfound => ?_) hr
  have hfind := find?_of_lookForFile hfound
  obtain ⟨place', -, rfl⟩ | ⟨place', m, e, hq, rfl⟩ := write_eq_ok h
  · rw [addFile, find?_append, hfind, Option.some_or]
  · by_cases hplace : place = place'
    · subst hplace
      cases hfind.symm.trans (find?_of_lookForFile hq)
      exact absurd ⟨k, fileAt?_eq_some_iff.2 ⟨place, c, hq⟩,
        fileAt?_eq_some_iff.2 ⟨place, c, hfound⟩⟩ hne
    · rw [find?_replace_of_ne t hplace, hfind]

lemma toOption_read_of_not_contains (h : t.contains p = false) : (t.read p).toOption = none := by
  cases hr : t.read p with
  | error f => rfl
  | ok c => exact nomatch h.symm.trans (contains_of_read hr)

lemma exists_reach_of_contains (h : t.contains p = true) :
    ∃ place n, t.reach p = .ok (place, some n) := by
  rw [contains] at h
  split at h
  · next place n hlook =>
    rw [look] at hlook
    split at hlook
    · next hr => exact ⟨_, _, hr⟩
    · exact ⟨place, n, hlook⟩
  · cases h

/-- If new folders give a path nothing to find, it finds what it found before, or nothing. -/
lemma Grows.contains_read (h : Grows ps t t')
    (hback : ∀ place n, t'.reach p = .ok (place, some n) → t.reach p = .ok (place, some n)) :
    t'.contains p = t.contains p ∧ (t'.read p).toOption = (t.read p).toOption ∧
      (t.contains p = true → t'.read p = t.read p) := by
  by_cases hfound : ∃ place n, t.reach p = .ok (place, some n)
  · obtain ⟨place, n, hr⟩ := hfound
    have hlook : t'.look p = t.look p := by rw [look, look, h.reach hr, hr]
    have hread : t'.read p = t.read p := by rw [Tree.read, Tree.read, hlook]
    exact ⟨by rw [contains, contains, hlook], by rw [hread], fun _ => hread⟩
  · have hold : t.contains p = false := by
      rw [Bool.eq_false_iff]
      exact fun hc => hfound (exists_reach_of_contains hc)
    have hnew : t'.contains p = false := by
      rw [Bool.eq_false_iff]
      intro hc
      obtain ⟨place, n, hr⟩ := exists_reach_of_contains hc
      exact hfound ⟨place, n, hback place n hr⟩
    refine ⟨hnew.trans hold.symm, ?_, fun hc => absurd hc (by simp [hold])⟩
    rw [toOption_read_of_not_contains hnew, toOption_read_of_not_contains hold]

end LaunchGuard.Tree
