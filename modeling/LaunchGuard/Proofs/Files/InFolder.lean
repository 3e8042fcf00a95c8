/-
# Files in a folder

The steps of a path that is joined from two are the steps of both in a row, and an ancestor of a
path takes some of its first steps.  A name that is a single component stands for a single step, so
a path that is joined from a folder and such a name takes one step down from the folder, and leads to
what has that name there.

So two paths whose names differ never lead to one file, whatever their folders.  If the names are the
same, they lead to one file as soon as the folders are one folder, however it is spelled.
-/
import Mathlib.Data.List.Basic
import LaunchGuard.Files.Path
import LaunchGuard.Proofs.Files.Adding
import LaunchGuard.Proofs.Text.Utf8

namespace LaunchGuard.Path

open Text.Utf8 (bytesOf)

/-! ### Pieces -/

lemma pieces_eq_splitOn (bs : List UInt8) : pieces bs = bs.splitOn slash := by
  induction bs with
  | nil => rfl
  | cons b bs ih =>
    rw [pieces, ih, List.splitOn, List.splitOn, List.splitOnP_cons_eq_if_modifyHead]
    by_cases hb : b = slash
    · rw [if_pos hb, if_pos (beq_iff_eq.2 hb)]
    · rw [if_neg hb, if_neg (by simpa using hb)]
      cases h : bs.splitOnP (· == slash) with
      | nil => exact absurd h (List.splitOnP_ne_nil _ _)
      | cons p ps => rfl

lemma pieces_ne_nil (bs : List UInt8) : pieces bs ≠ [] := by
  rw [pieces_eq_splitOn]
  exact List.splitOnP_ne_nil _ _

/-- A slash parts the pieces before it from those after it. -/
lemma pieces_append_slash (bs cs : List UInt8) :
    pieces (bs ++ slash :: cs) = pieces bs ++ pieces cs := by
  rw [pieces_eq_splitOn, pieces_eq_splitOn, pieces_eq_splitOn]
  exact List.splitOnP_append_cons bs cs (by decide)

lemma slash_notMem_of_mem_pieces {bs piece : List UInt8} (h : piece ∈ pieces bs) :
    slash ∉ piece := by
  induction bs generalizing piece with
  | nil =>
    rw [List.mem_singleton.1 h]
    exact List.not_mem_nil
  | cons b bs ih =>
    rw [pieces] at h
    split at h
    · rcases List.mem_cons.1 h with rfl | h
      · exact List.not_mem_nil
      · exact ih h
    · next hb =>
      have hb' : slash ≠ b := fun heq => hb heq.symm
      split at h
      · next hnil => exact absurd hnil (pieces_ne_nil bs)
      · next p ps hps =>
        rw [hps] at ih
        rcases List.mem_cons.1 h with rfl | h
        · exact List.not_mem_cons_of_ne_of_not_mem hb' (ih (.head ps))
        · exact ih (.tail p h)

/-! ### Joined paths -/

/-- The bytes of a joined path are those of the first path, a slash if one is needed, and those of
the second. -/
lemma bytes_join (p : Path) {next : String} (h : isAbsolute ⟨next⟩ = false) :
    (p.join next).bytes =
      if p.bytes = [] ∨ p.endsInSlash then p.bytes ++ bytesOf next
      else p.bytes ++ slash :: bytesOf next := by
  simp only [join, h, Bool.false_eq_true, if_false]
  split <;> rfl

/-- The steps of the second path are taken after those of the first. -/
lemma steps_join (p : Path) {next : String} (h : isAbsolute ⟨next⟩ = false) :
    (p.join next).steps = p.steps ++ steps ⟨next⟩ := by
  have hnext : steps ⟨next⟩ = (pieces (bytesOf next)).filterMap stepOf := rfl
  rw [steps, bytes_join p h, hnext, steps]
  split
  · next hend =>
    rcases hend with hnil | hend
    · rw [hnil]
      rfl
    · -- the slash at the end of the first path leaves an empty piece, which is no step
      rw [endsInSlash, decide_eq_true_eq, List.getLast?_eq_some_iff] at hend
      obtain ⟨bs, hbs⟩ := hend
      rw [hbs, List.append_assoc, List.singleton_append, pieces_append_slash,
        pieces_append_slash, List.filterMap_append, List.filterMap_append]
      simp [pieces, stepOf]
  · rw [pieces_append_slash, List.filterMap_append]

/-- A joined path begins with the bytes of the first path. -/
lemma exists_bytes_join (p : Path) {next : String} (h : isAbsolute ⟨next⟩ = false) :
    ∃ rest, (p.join next).bytes = p.bytes ++ rest := by
  rw [bytes_join p h]
  split
  · exact ⟨_, rfl⟩
  · exact ⟨_, rfl⟩

/-- A joined path ends as the second path does. -/
lemma endsInSlash_join (p : Path) {next : String} {b : UInt8}
    (hlast : (bytesOf next).getLast? = some b) (hb : b ≠ slash) :
    (p.join next).endsInSlash = false := by
  have hends : ∀ (q : Path) (front : List UInt8),
      q.bytes = front ++ bytesOf next → q.endsInSlash = false := by
    intro q front hq
    rw [endsInSlash, hq, List.getLast?_append, hlast]
    exact decide_eq_false fun h => hb (Option.some.inj h)
  rw [join]
  split
  · exact hends _ [] (List.nil_append _).symm
  · split
    · exact hends _ p.bytes rfl
    · exact hends _ (p.bytes ++ [slash]) (List.append_cons _ _ _)

/-! ### Single components -/

/-- The name is a single component, which stands for a step down. -/
structure IsComponent (name : String) : Prop where
  ne_empty : name ≠ ""
  no_slash : '/' ∉ name.toList
  ne_here : name ≠ "."
  ne_above : name ≠ ".."

lemma pieces_of_slash_notMem {bs : List UInt8} (h : slash ∉ bs) : pieces bs = [bs] := by
  induction bs with
  | nil => rfl
  | cons b bs ih =>
    have hb : b ≠ slash := Ne.symm (List.ne_of_not_mem_cons h)
    rw [pieces, if_neg hb, ih (List.not_mem_of_not_mem_cons h)]

namespace IsComponent

variable {name : String}

/-- A slash in the bytes would be a slash in the name. -/
lemma slash_notMem_bytes (h : IsComponent name) : slash ∉ bytesOf name :=
  fun hmem => h.no_slash (Text.Utf8.mem_of_ofNat_mem_encode (by decide) hmem)

lemma isAbsolute (h : IsComponent name) : Path.isAbsolute ⟨name⟩ = false := by
  refine decide_eq_false fun hhead => h.slash_notMem_bytes ?_
  exact List.mem_of_head? hhead

lemma steps (h : IsComponent name) : Path.steps ⟨name⟩ = [.down name] := by
  have hne : bytesOf name ≠ [] := fun hnil => h.ne_empty (Text.Utf8.bytesOf_inj.1 hnil)
  have hhere : bytesOf name ≠ [period] := fun hdot => h.ne_here (Text.Utf8.bytesOf_inj.1 hdot)
  have habove : bytesOf name ≠ [period, period] := fun hdots =>
    h.ne_above (Text.Utf8.bytesOf_inj.1 hdots)
  have hstep : stepOf (bytesOf name) = some (.down name) := by
    rw [stepOf, if_neg hne, if_neg hhere, if_neg habove]
    rfl
  change (pieces (bytesOf name)).filterMap stepOf = _
  rw [pieces_of_slash_notMem h.slash_notMem_bytes, List.filterMap_cons_some hstep,
    List.filterMap_nil]

/-- From the folder, the path takes one step down. -/
lemma steps_join (h : IsComponent name) (p : Path) :
    (p.join name).steps = p.steps ++ [.down name] := by
  rw [Path.steps_join p h.isAbsolute, h.steps]

end IsComponent

/-! ### Ancestors -/

lemma suffix_of_mem_beginnings {ps qs : List (List UInt8)} (h : qs ∈ beginnings ps) :
    qs <:+ ps := by
  induction ps with
  | nil => cases h
  | cons p ps ih =>
    rw [beginnings] at h
    split at h
    · exact (ih h).trans (List.suffix_cons p ps)
    · rcases List.mem_cons.1 h with rfl | h
      · exact List.suffix_refl _
      · exact (ih h).trans (List.suffix_cons p ps)

lemma steps_ofReversed {qs : List (List UInt8)} (hne : qs ≠ []) (hqs : ∀ q ∈ qs, slash ∉ q) :
    (ofReversed qs).steps = qs.reverse.filterMap stepOf := by
  have hpieces : pieces ([slash].intercalate qs.reverse) = qs.reverse := by
    rw [pieces_eq_splitOn]
    refine List.splitOn_intercalate slash (fun q hq => hqs q (List.mem_reverse.1 hq)) ?_
    simpa using hne
  exact congrArg (List.filterMap stepOf) hpieces

/-- An ancestor takes some of the first steps of the path. -/
lemma steps_prefix_of_mem_ancestors {p q : Path} (h : q ∈ p.ancestors) : q.steps <+: p.steps := by
  obtain ⟨qs, hqs, rfl⟩ := List.mem_map.1 h
  have hmem := List.mem_of_mem_drop hqs
  have hsuffix := suffix_of_mem_beginnings hmem
  obtain ⟨last, rest, rfl, -⟩ := isIdle_of_mem_beginnings hmem
  have hslash : ∀ q ∈ last :: rest, slash ∉ q := fun q hq =>
    slash_notMem_of_mem_pieces (List.mem_reverse.1 (hsuffix.subset hq))
  rw [steps_ofReversed (List.cons_ne_nil last rest) hslash]
  have hprefix : (last :: rest).reverse <+: pieces p.bytes := by
    rw [← List.reverse_suffix, List.reverse_reverse]
    exact hsuffix
  exact hprefix.filterMap stepOf

end LaunchGuard.Path

/-! ### Folders -/

namespace LaunchGuard.Tree

variable {t : Tree} {p q : Path} {name name' : String} {place place' : Place}

/-- Two paths lead to the same folder. -/
def SameFolder (t : Tree) (p q : Path) : Prop :=
  ∃ place, t.reach p = .ok (place, some .folder) ∧ t.reach q = .ok (place, some .folder)

/-- If the system takes the path of something in a folder, then it takes that of the folder. -/
lemma stepsTo_of_join (hname : Path.IsComponent name) {steps : List PathStep}
    (h : stepsTo (p.join name) = .ok steps) : stepsTo p = .ok p.steps := by
  obtain ⟨rest, hbytes⟩ := p.exists_bytes_join hname.isAbsolute
  obtain ⟨hnul, hshort, -⟩ := stepsTo_eq_ok_iff.1 h
  rw [hbytes] at hnul hshort
  rw [List.length_append] at hshort
  refine stepsTo_eq_ok_iff.2 ⟨fun hmem => hnul (List.mem_append_left _ hmem), ?_, rfl⟩
  exact Nat.le_trans (Nat.le_add_right _ _) hshort

/-- The file is in the folder, under its name. -/
lemma exists_folder_of_filePlace? (hname : Path.IsComponent name)
    (h : t.filePlace? (p.join name) = some place) :
    ∃ folder, t.reach p = .ok (folder, some .folder) ∧ place = folder ++ [(name : Spelling)] := by
  obtain ⟨hfound, -⟩ := filePlace?_eq_some_iff.1 h
  obtain ⟨steps, hsteps, hwalk, -⟩ := reach_eq_ok_iff.1 (lookForFile_eq_ok_iff.1 hfound).2
  rw [← steps_of_stepsTo hsteps, hname.steps_join] at hwalk
  obtain ⟨folder, hfolder, hlast⟩ := walk_append_eq_ok_iff.1 hwalk
  obtain ⟨hfind, next, hnext, hend⟩ := walk_cons_eq_ok_iff.1 hlast
  cases hend
  exact ⟨folder, reach_eq_ok_iff.2 ⟨p.steps, stepsTo_of_join hname hsteps, hfolder, hfind⟩,
    eq_of_stepFrom_down hnext⟩

/-- Files of different names are two files. -/
lemma Counted.name_eq (ht : t.Counted) (hname : Path.IsComponent name)
    (hname' : Path.IsComponent name') (h : t.SameFile (p.join name) (q.join name')) :
    name = name' := by
  obtain ⟨k, hk, hk'⟩ := h
  obtain ⟨place, c, hplace, hfind⟩ := exists_place_of_fileAt? hk
  obtain ⟨place', c', hplace', hfind'⟩ := exists_place_of_fileAt? hk'
  obtain ⟨folder, -, rfl⟩ := exists_folder_of_filePlace? hname hplace
  obtain ⟨folder', -, rfl⟩ := exists_folder_of_filePlace? hname' hplace'
  have hsame := ht.single _ _ k c c' hfind hfind'
  have hspelling := List.singleton_inj.1 (List.append_inj_right' hsame rfl)
  exact Text.Utf8.bytesOf_inj.1 (congrArg Spelling.bytes hspelling)

/-- In one folder, paths with one name have one place for their files. -/
lemma SameFolder.place_eq (hfolder : t.SameFolder p q) (hname : Path.IsComponent name)
    (h : t.filePlace? (p.join name) = some place)
    (h' : t.filePlace? (q.join name) = some place') : place = place' := by
  obtain ⟨folder, hp, hq⟩ := hfolder
  obtain ⟨above, hp', rfl⟩ := exists_folder_of_filePlace? hname h
  obtain ⟨above', hq', rfl⟩ := exists_folder_of_filePlace? hname h'
  cases hp.symm.trans hp'
  cases hq.symm.trans hq'
  rfl

/-- In one folder, a path that can be opened leads to the file that another path with its name leads
to. -/
lemma SameFolder.sameFile (hfolder : t.SameFolder p q) (hname : Path.IsComponent name)
    (hopen : (t.openOrMake (p.join name)).isOk = true) {k : Nat}
    (hfile : t.fileAt? (q.join name) = some k) : t.SameFile (p.join name) (q.join name) := by
  cases hmade : t.openOrMake (p.join name) with
  | error f =>
    rw [hmade] at hopen
    cases hopen
  | ok made =>
    obtain ⟨n, t'⟩ := made
    obtain ⟨place, hplace, hopened⟩ := openOrMake_eq_ok_iff.1 hmade
    obtain ⟨place', c, hplace', hfind⟩ := exists_place_of_fileAt? hfile
    obtain rfl := hfolder.place_eq hname hplace hplace'
    refine ⟨k, fileAt?_eq_some_iff.2 ⟨place, c, ?_⟩, hfile⟩
    rw [(filePlace?_eq_some_iff.1 hplace).1, hfind]

end LaunchGuard.Tree
