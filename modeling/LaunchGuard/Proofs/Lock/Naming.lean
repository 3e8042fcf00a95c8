/-
# Names of lock files

The name of a lock file has one character for each character of the lock's name, an underscore for
all that are not plain, and the ending `.lock`.  So it is a single component, whatever the lock is
called, and the file lies in the folder of the lock.

Different names may come to one file name, and which do can be told from the names alone: they
collide.  In one folder, locks exclude each other exactly if their names collide.
-/
import LaunchGuard.Proofs.Files.InFolder
import LaunchGuard.Proofs.Lock.Exclusion
import LaunchGuard.Proofs.Lock.FilesMade
import LaunchGuard.Text.Classes

namespace LaunchGuard

namespace Lock

/-- The two characters are one in the name of a lock file: they are equal, or each is an underscore
or has one put for it. -/
def Merge (c d : Char) : Prop :=
  c = d ∨ (c = '_' ∨ isPlain c = false) ∧ (d = '_' ∨ isPlain d = false)

/-- The two names are one in the names of lock files: they have equally many characters, and these
are one at every position. -/
def Collide (n m : String) : Prop :=
  n.length = m.length ∧
    ∀ (i : Nat) (c d : Char), n.toList[i]? = some c → m.toList[i]? = some d → Merge c d

/-- The two locks have their files in one folder. -/
def SharesFolder (t : Tree) (l l' : Lock) : Prop :=
  l.folder = l'.folder ∨ t.SameFolder l.folder l'.folder

variable {c d : Char} {n m name : String} {t : Tree} {l l' : Lock}

/-! ### Plain characters -/

lemma toNat_lt_of_isPlain (h : isPlain c = true) : c.toNat < 128 := by
  simp only [isPlain, Bool.or_eq_true, decide_eq_true_eq] at h
  rcases h with ((halphanum | rfl) | rfl) | rfl
  · exact Text.toNat_lt_of_isAlphanum halphanum
  · decide
  · decide
  · decide

/-- What a file name has for a character is plain. -/
lemma isPlain_kept (c : Char) : isPlain (if isPlain c then c else '_') = true := by
  cases h : isPlain c with
  | true => exact h
  | false =>
    show isPlain '_' = true
    decide

/-- A file name has the same for two characters exactly if they are one in it. -/
lemma kept_eq_iff :
    (if isPlain c then c else '_') = (if isPlain d then d else '_') ↔ Merge c d := by
  have hne : isPlain c ≠ isPlain d → c ≠ d := mt (congrArg isPlain)
  rw [Merge]
  cases hc : isPlain c with
  | true =>
    cases hd : isPlain d with
    | true => simpa using fun hc hd => hc.trans hd.symm
    | false => simp [hne (by simp [hc, hd])]
  | false =>
    cases hd : isPlain d with
    | true => simp [hne (by simp [hc, hd]), @eq_comm _ '_' d]
    | false => simp

/-! ### The name of the file -/

lemma toList_fileName (name : String) :
    (fileName name).toList = sanitized name ++ ".lock".toList := String.toList_ofList

lemma length_sanitized (name : String) : (sanitized name).length = name.length := by
  rw [sanitized, List.length_map, String.length_toList]

lemma isPlain_of_mem_sanitized (h : c ∈ sanitized name) : isPlain c = true := by
  obtain ⟨d, -, rfl⟩ := List.mem_map.1 h
  exact isPlain_kept d

lemma isPlain_of_mem_fileName (h : c ∈ (fileName name).toList) : isPlain c = true := by
  have hending : ".lock".toList.all isPlain = true := by decide
  rw [toList_fileName, List.mem_append] at h
  exact h.elim isPlain_of_mem_sanitized (List.all_eq_true.1 hending c)

/-- A name of plain characters is kept. -/
lemma sanitized_of_plain (h : ∀ c ∈ name.toList, isPlain c = true) :
    sanitized name = name.toList :=
  (List.map_congr_left fun c hc => if_pos (h c hc)).trans (List.map_id _)

/-- The name of a lock file is a single component, whatever the lock is called. -/
lemma isComponent_fileName (name : String) : Path.IsComponent (fileName name) := by
  have hlength : 5 ≤ (fileName name).length := by
    rw [← String.length_toList, toList_fileName, List.length_append]
    exact Nat.le_add_left _ _
  have hlong : ∀ s : String, s.length < 5 → fileName name ≠ s := by
    rintro s hs rfl
    exact Nat.not_lt.2 hlength hs
  have hslash : '/' ∉ (fileName name).toList := fun h => nomatch isPlain_of_mem_fileName h
  exact ⟨hlong "" (by decide), hslash, hlong "." (by decide), hlong ".." (by decide)⟩

/-- Two names come to one file name exactly if they collide. -/
lemma fileName_eq_iff : fileName n = fileName m ↔ Collide n m := by
  rw [← String.toList_inj, toList_fileName, toList_fileName, List.append_left_inj]
  constructor
  · intro h
    refine ⟨?_, fun i c d hc hd => ?_⟩
    · rw [← length_sanitized, h, length_sanitized]
    · have hi : (sanitized n)[i]? = (sanitized m)[i]? := by rw [h]
      rw [sanitized, sanitized, List.getElem?_map, List.getElem?_map, hc, hd] at hi
      exact kept_eq_iff.1 (Option.some.inj hi)
  · rintro ⟨hlength, hmerge⟩
    refine List.ext_getElem (by rw [length_sanitized, length_sanitized, hlength]) fun i hi hi' => ?_
    simp only [sanitized, List.getElem_map]
    exact kept_eq_iff.2 (hmerge i _ _ (List.getElem?_eq_getElem _) (List.getElem?_eq_getElem _))

/-! ### Files of two locks -/

/-- Locks with one file have names that collide, whatever their folders. -/
lemma SharesFile.collide (ht : t.Counted) (h : l.SharesFile t l') : Collide l.name l'.name := by
  obtain ⟨-, hname⟩ | hsame := h
  · exact fileName_eq_iff.1 hname
  · exact fileName_eq_iff.1
      (ht.name_eq (isComponent_fileName l.name) (isComponent_fileName l'.name) hsame)

/-- In one folder, a lock whose file can be opened and one whose file is there have one file exactly
if their names collide. -/
lemma SharesFolder.sharesFile_iff (ht : t.Counted) (hfolder : l.SharesFolder t l')
    (hopen : (t.openOrMake l.path).isOk = true) {k : Nat} (hfile : t.fileAt? l'.path = some k) :
    l.SharesFile t l' ↔ Collide l.name l'.name := by
  refine ⟨SharesFile.collide ht, fun hcollide => ?_⟩
  have hname := fileName_eq_iff.2 hcollide
  obtain hsame | hsame := hfolder
  · exact .inl ⟨hsame, hname⟩
  · rw [path, hname] at hopen
    refine .inr ?_
    rw [path, hname]
    exact hsame.sameFile (isComponent_fileName l'.name) hopen hfile

end Lock

namespace Registry

open Lock

variable {r : Registry} {id id' : String} {l l' : Lock}

/-- A third lock, which has neither of the two identifiers, owns the file of the lock. -/
def OwnedByThird (r : Registry) (id id' : String) (l : Lock) : Prop :=
  ∃ i l₃, i ≠ id ∧ i ≠ id' ∧ r.lock? i = some l₃ ∧ l₃.state = .ownedHere ∧
    l.SharesFile r.tree l₃

/-- Beside an owner, the other owner of a file is that one or a third. -/
lemma ownedElsewhere_iff_of_owner (hne : id ≠ id') (h' : r.lock? id' = some l')
    (hown' : l'.state = .ownedHere) :
    r.OwnedElsewhere id l ↔ l.SharesFile r.tree l' ∨ r.OwnedByThird id id' l := by
  constructor
  · rintro ⟨i, l₃, hi, hl₃, hown₃, hshare₃⟩
    by_cases hii : i = id'
    · subst hii
      cases h'.symm.trans hl₃
      exact .inl hshare₃
    · exact .inr ⟨i, l₃, hi, hii, hl₃, hown₃, hshare₃⟩
  · rintro (hshare' | ⟨i, l₃, hi, -, hl₃, hown₃, hshare₃⟩)
    · exact ⟨id', l', hne.symm, h', hown', hshare'⟩
    · exact ⟨i, l₃, hi, hl₃, hown₃, hshare₃⟩

/-- Owners in one folder have names that do not collide. -/
lemma Sound.not_collide (hs : Sound r) (ht : r.tree.Counted) (hne : id ≠ id')
    (h : r.lock? id = some l) (h' : r.lock? id' = some l') (hown : l.state = .ownedHere)
    (hown' : l'.state = .ownedHere) (hfolder : l.SharesFolder r.tree l') :
    ¬Collide l.name l'.name := by
  intro hcollide
  obtain ⟨k, -, hfile, -⟩ := hs.exists_handle h hown
  obtain ⟨n, -, hfile', -⟩ := hs.exists_handle h' hown'
  have hopen : (r.tree.openOrMake l.path).isOk = true := by
    rw [Tree.openOrMake_of_fileAt? hfile]
    rfl
  have hshare := (hfolder.sharesFile_iff ht hopen hfile').2 hcollide
  exact hne (hs.eq_of_owners h h' hown hown' hshare)

/-- Beside an owner in its folder, a lock has its file owned elsewhere exactly if their names collide
or there is a third owner. -/
lemma Sound.ownedElsewhere_iff (hs : Sound r) (ht : r.tree.Counted) (hne : id ≠ id')
    (h' : r.lock? id' = some l') (hown' : l'.state = .ownedHere)
    (hfolder : l.SharesFolder r.tree l') (hopen : (r.tree.openOrMake l.path).isOk = true) :
    r.OwnedElsewhere id l ↔ Collide l.name l'.name ∨ r.OwnedByThird id id' l := by
  obtain ⟨n, -, hfile', -⟩ := hs.exists_handle h' hown'
  rw [ownedElsewhere_iff_of_owner hne h' hown', hfolder.sharesFile_iff ht hopen hfile']

/-- **Names and exclusion.**  In any tree, the file of a lock lies in the folder of the lock, under a
name that is a single component without NUL characters: as many ASCII characters as the name of the
lock has characters, which are these if all are plain, and `.lock`.  Two names come to one file name
exactly if they collide, and plain names that differ never share a file.  After any run that removes
no owned file, a lock that asks for its file, in the folder of an owner, is refused it exactly if
their names collide or a third lock owns it, and otherwise acquires it; two owners in one folder have
names that do not collide. -/
theorem names_decide_exclusion :
    (∀ l : Lock, l.path = l.folder.join (fileName l.name) ∧
      l.path.steps = l.folder.steps ++ [.down (fileName l.name)] ∧
      (∀ (t : Tree) place, t.filePlace? l.path = some place →
        ∃ folder, t.reach l.folder = .ok (folder, some .folder) ∧
          place = folder ++ [(fileName l.name : Spelling)]) ∧
      Path.IsComponent (fileName l.name) ∧ '\x00' ∉ (fileName l.name).toList ∧
      ∃ kept, (fileName l.name).toList = kept ++ ".lock".toList ∧ kept.length = l.name.length ∧
        (∀ c ∈ kept, c.toNat < 128) ∧
        ((∀ c ∈ l.name.toList, isPlain c = true) → kept = l.name.toList)) ∧
    (∀ n m, fileName n = fileName m ↔ Collide n m) ∧
    (∀ (es : List LockEvent) (l l' : Lock), (∀ c ∈ l.name.toList, isPlain c = true) →
      (∀ c ∈ l'.name.toList, isPlain c = true) → l.name ≠ l'.name →
      ¬l.SharesFile (({} : Registry).after es).tree l') ∧
    ∀ es, ({} : Registry).KeepsOwned es →
      let r := ({} : Registry).after es
      ∀ id id' l l', id ≠ id' → r.lock? id = some l → r.lock? id' = some l' →
        l'.state = .ownedHere → l.SharesFolder r.tree l' →
        (l.state = .ownedHere → ¬Collide l.name l'.name) ∧
        ((r.tree.openOrMake l.path).isOk = true →
          ((r.perform (.acquire id)).value.1 = .acquisition (.ok .alreadyHeld) ↔
            Collide l.name l'.name ∨ r.OwnedByThird id id' l) ∧
          ((r.perform (.acquire id)).value.1 = .acquisition (.ok .acquired) ↔
            ¬(Collide l.name l'.name ∨ r.OwnedByThird id id' l))) := by
  have hcounted : ∀ es, (({} : Registry).after es).tree.Counted :=
    counted_after Tree.Counted.empty
  refine ⟨fun l => ?_, fun n m => fileName_eq_iff, ?_, ?_⟩
  · have hnul : '\x00' ∉ (fileName l.name).toList := fun h => nomatch isPlain_of_mem_fileName h
    have hascii : ∀ c ∈ sanitized l.name, c.toNat < 128 := fun c hc =>
      toNat_lt_of_isPlain (isPlain_of_mem_sanitized hc)
    have hname := isComponent_fileName l.name
    exact ⟨rfl, hname.steps_join l.folder, fun t place => Tree.exists_folder_of_filePlace? hname,
      hname, hnul, sanitized l.name, toList_fileName l.name, length_sanitized l.name, hascii,
      sanitized_of_plain⟩
  · intro es l l' hplain hplain' hne hshare
    have hname := fileName_eq_iff.2 (hshare.collide (hcounted es))
    rw [← String.toList_inj, toList_fileName, toList_fileName, List.append_left_inj,
      sanitized_of_plain hplain, sanitized_of_plain hplain'] at hname
    exact hne (String.toList_inj.1 hname)
  · intro es hkeeps r id id' l l' hne h h' hown' hfolder
    have hs : Sound r := Sound.start.after hkeeps
    have ht : r.tree.Counted := hcounted es
    refine ⟨fun hown => hs.not_collide ht hne h h' hown hown' hfolder, fun hopen => ?_⟩
    have hanswer : (r.perform (.acquire id)).value.1 =
        (r.acquire id).value.1.elim .noLock .acquisition := rfl
    rw [← hs.ownedElsewhere_iff ht hne h' hown' hfolder hopen, hanswer]
    obtain ⟨helse, hrefused⟩ | ⟨helse, hacquired⟩ := hs.acquire h hopen
    · rw [hrefused]
      simp [helse]
    · rw [hacquired]
      simp [helse]

/-- A lock is acquired; in its folder, one of another name is refused its file, and one of a third
name is not. -/
theorem names_decide_exclusion_of_three :
    let start : List LockEvent := [.makeFolders ⟨"a"⟩, .step (.create "x" "../é" ⟨"a"⟩),
      .step (.create "y" ".._\n" ⟨"./a"⟩), .step (.create "z" ".._e" ⟨"a"⟩), .step (.acquire "x")]
    let r := ({} : Registry).after start
    (r.perform (.acquire "y")).value.1 = .acquisition (.ok .alreadyHeld) ∧
      (r.perform (.acquire "z")).value.1 = .acquisition (.ok .acquired) := by
  intro start r
  obtain ⟨-, hnames, -, hruns⟩ := names_decide_exclusion
  have hanswers := hruns start ⟨trivial, trivial, trivial, trivial, trivial, trivial⟩
  have hx : r.lock? "x" = some
      { name := "../é", folder := ⟨"a"⟩, state := .ownedHere, handle := some 0 } := by
    decide +kernel
  have hfolder : r.tree.SameFolder ⟨"./a"⟩ ⟨"a"⟩ :=
    ⟨["a"], by decide +kernel, by decide +kernel⟩
  constructor
  · obtain ⟨-, hy⟩ := hanswers "y" "x" { name := ".._\n", folder := ⟨"./a"⟩ } _ (by decide)
      (by decide +kernel) hx rfl (.inr hfolder)
    exact (hy (by decide +kernel)).1.2 (.inl ((hnames _ _).1 (by decide)))
  · obtain ⟨-, hz⟩ := hanswers "z" "x" { name := ".._e", folder := ⟨"a"⟩ } _ (by decide)
      (by decide +kernel) hx rfl (.inl rfl)
    refine (hz (by decide +kernel)).2.2 ?_
    rintro (hcollide | ⟨i, l₃, -, hi, hl₃, hown₃, -⟩)
    · exact absurd ((hnames _ _).2 hcollide) (by decide)
    · have howners : ∀ e ∈ r.locks, e.2.state = .ownedHere → e.1 = "x" := by decide +kernel
      have hmem := (lookup_eq_some_iff_mem (by decide +kernel)).1 hl₃
      exact hi (howners (i, l₃) hmem hown₃)

end Registry

end LaunchGuard
