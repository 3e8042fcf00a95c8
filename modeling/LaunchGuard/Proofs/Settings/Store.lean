/-
# The settings file over a run

Settings that were saved are loaded until something else is done to their file.  A save that fails
has made folders at most: no file is made, changed or removed, and what could be read can still be
read.  Yet the folders may open a way that was closed before, for a path that goes up from a folder
that was missing.

Loading changes nothing.  It falls back on the defaults only where there is nothing to load.
-/
import LaunchGuard.Proofs.Files.Content
import LaunchGuard.Proofs.Files.InFolder
import LaunchGuard.Proofs.Settings.RoundTrip
import LaunchGuard.Proofs.Text.Utf8
import LaunchGuard.Settings.Run

namespace LaunchGuard

/-! ### Loading and saving -/

namespace Settings

variable {t t' : Tree} {folder : Path} {s : Settings}

/-- Settings are loaded from the bytes of the file, or they are the defaults for want of it. -/
lemma load_eq_ok_iff :
    load t folder = .ok s ↔
      t.contains (pathIn folder) = false ∧ s = {} ∨
      ∃ bytes cs, t.read (pathIn folder) = .ok bytes ∧ Text.Utf8.decode? bytes = some cs ∧
        Settings.read (String.ofList cs) = .ok s := by
  rw [load]
  cases hc : t.contains (pathIn folder) with
  | false =>
    have hread : ∀ bytes, t.read (pathIn folder) ≠ .ok bytes := by
      intro bytes hbytes
      exact nomatch hc.symm.trans (Tree.contains_of_read hbytes)
    simp [hread, eq_comm]
  | true =>
    cases hr : t.read (pathIn folder) with
    | error f => simp
    | ok bytes => cases hd : Text.Utf8.decode? bytes <;> simp [hd, mapError_eq_ok_iff]

lemma load_congr (hcontains : t'.contains (pathIn folder) = t.contains (pathIn folder))
    (hread : t.contains (pathIn folder) = true → t'.read (pathIn folder) = t.read (pathIn folder)) :
    load t' folder = load t folder := by
  rw [load, load, hcontains]
  split
  · next h => rw [hread h]
  · rfl

/-- A save fails after nothing but the making of folders, or it writes the text of the settings. -/
lemma save_cases (t : Tree) (folder : Path) (s : Settings) :
    (∃ f, (save t folder s).value = ((t.ensureFolders folder).1, .error f)) ∨
      ∃ text t', s.write = .ok text ∧
        (t.ensureFolders folder).1.write (pathIn folder) (Text.Utf8.bytesOf text) = .ok t' ∧
        (save t folder s).value = (t', .ok ()) := by
  rw [save]
  rcases t.ensureFolders folder with ⟨t', f | ⟨⟩⟩
  · exact .inl ⟨_, rfl⟩
  dsimp only
  cases hs : s.write with
  | error f => exact .inl ⟨_, rfl⟩
  | ok text =>
    dsimp only
    cases hw : t'.write (pathIn folder) (Text.Utf8.bytesOf text) with
    | error f => exact .inl ⟨_, rfl⟩
    | ok t'' => exact .inr ⟨text, t'', rfl, hw, rfl⟩

/-- The settings whose text is in the file are loaded. -/
lemma load_of_read_written {text : String} (hs : s.write = .ok text)
    (hr : t.read (pathIn folder) = .ok (Text.Utf8.bytesOf text)) : load t folder = .ok s := by
  refine load_eq_ok_iff.2 (.inr ⟨_, text.toList, hr, Text.Utf8.decode?_encode _, ?_⟩)
  obtain ⟨hwritable, rfl⟩ := write_eq_ok_iff.1 hs
  rw [String.ofList_toList]
  exact read_written hwritable

lemma steps_pathIn (folder : Path) :
    (pathIn folder).steps = folder.steps ++ [.down fileName] :=
  Path.steps_join folder (by decide)

/-- The folders that a save makes are the one with the file and those on the way to it. -/
lemma steps_prefix_of_mem {q : Path} (hq : q ∈ folder :: folder.ancestors) :
    q.steps <+: folder.steps := by
  rcases List.mem_cons.1 hq with rfl | hq
  · exact List.prefix_refl _
  · exact Path.steps_prefix_of_mem_ancestors hq

end Settings

namespace SettingsStore

/-- The path of the settings file. -/
def file (st : SettingsStore) : Path := Settings.pathIn st.folder

/-- The answer to a step. -/
def answer (st : SettingsStore) (step : StoreStep) : StoreAnswer := (st.perform step).value.1

/-- The store after a step. -/
def next (st : SettingsStore) (step : StoreStep) : SettingsStore := (st.perform step).value.2

/-- The store after some steps. -/
def after (st : SettingsStore) (steps : List StoreStep) : SettingsStore :=
  (st.performAll steps).value.2

/-- The step saves, writes or removes the settings file, or it empties that file by some path. -/
def Changes (st : SettingsStore) : StoreStep → Prop
  | .save s => st.answer (.save s) = .saved (.ok ())
  | .write bytes => st.answer (.write bytes) = .done true
  | .remove => st.answer .remove = .done true
  | .makeFile path => st.tree.SameFile (st.root.join path) st.file
  | .load | .read | .makeFolder _ => False

/-- None of the steps changes the settings file. -/
def Leaves (st : SettingsStore) : List StoreStep → Prop
  | [] => True
  | step :: rest => ¬st.Changes step ∧ (st.next step).Leaves rest

variable {st : SettingsStore}

lemma after_cons (st : SettingsStore) (step : StoreStep) (rest : List StoreStep) :
    st.after (step :: rest) = (st.next step).after rest := rfl

/-! ### Single steps -/

lemma answer_load (st : SettingsStore) :
    st.answer .load = .loaded (Settings.load st.tree st.folder) := rfl

lemma answer_read (st : SettingsStore) :
    st.answer .read = .content (st.tree.read st.file).toOption := rfl

lemma answer_save (st : SettingsStore) (s : Settings) :
    st.answer (.save s) = .saved (Settings.save st.tree st.folder s).value.2 := rfl

lemma next_save (st : SettingsStore) (s : Settings) :
    st.next (.save s) = { st with tree := (Settings.save st.tree st.folder s).value.1 } := rfl

/-- A successful save leaves the text of the settings in the file. -/
lemma read_after_save {s : Settings} (h : st.answer (.save s) = .saved (.ok ())) :
    ∃ text, s.write = .ok text ∧
      (st.next (.save s)).tree.read st.file = .ok (Text.Utf8.bytesOf text) := by
  rw [answer_save] at h
  rw [next_save]
  rcases Settings.save_cases st.tree st.folder s with ⟨f, hsave⟩ | ⟨text, t', hs, hw, hsave⟩
  · rw [hsave] at h
    cases h
  · rw [hsave]
    exact ⟨text, hs, Tree.read_of_write hw⟩

/-- A save that fails has made folders at most. -/
lemma next_failed_save {s : Settings} (h : st.answer (.save s) ≠ .saved (.ok ())) :
    st.next (.save s) = { st with tree := (st.tree.ensureFolders st.folder).1 } := by
  rw [answer_save] at h
  rw [next_save]
  rcases Settings.save_cases st.tree st.folder s with ⟨f, hsave⟩ | ⟨text, t', hs, hw, hsave⟩
  · rw [hsave]
  · rw [hsave] at h
    exact absurd rfl h

/-- What a step can do to the files. -/
inductive Effect (st : SettingsStore) (step : StoreStep) : Tree → Prop where
  /-- Folders are made, if anything. -/
  | folders {t : Tree} (ps : List Path) : (st.tree.ensureChain ps).1 = t → Effect st step t
  /-- The settings file is written, after its folders were made. -/
  | written (ps : List Path) {p : Path} {bytes : List UInt8} {t : Tree} :
    st.Changes step → (st.tree.ensureChain ps).1.write p bytes = .ok t → Effect st step t
  /-- The settings file is removed. -/
  | removed {t : Tree} : st.Changes step → st.tree.remove st.file = .ok t → Effect st step t
  /-- Another file is made or emptied. -/
  | elsewhere {p : Path} {t : Tree} :
    ¬st.tree.SameFile p st.file → st.tree.write p [] = .ok t → Effect st step t

/-- A step has one of these effects, and changes nothing but the files. -/
lemma exists_effect (st : SettingsStore) (step : StoreStep) :
    ∃ t, st.next step = { st with tree := t } ∧ st.Effect step t := by
  cases step with
  | load => exact ⟨st.tree, rfl, .folders [] rfl⟩
  | save s =>
    by_cases hs : st.answer (.save s) = .saved (.ok ())
    · rcases Settings.save_cases st.tree st.folder s with ⟨f, hsave⟩ | ⟨text, t, -, hw, hsave⟩
      · rw [answer_save, hsave] at hs
        cases hs
      · exact ⟨t, by rw [next_save, hsave], .written _ hs hw⟩
    · exact ⟨_, next_failed_save hs, .folders (st.folder :: st.folder.ancestors) rfl⟩
  | read => exact ⟨st.tree, rfl, .folders [] rfl⟩
  | write bytes =>
    have hchanges (h : (st.perform (.write bytes)).value.1 = .done true) :
        st.Changes (.write bytes) := h
    rw [next]
    rw [perform.eq_def] at hchanges ⊢
    dsimp only at hchanges ⊢
    rcases hway : st.tree.ensureWay (Settings.pathIn st.folder) with ⟨t, f | ⟨⟩⟩
    · exact ⟨t, rfl, .folders _ (congrArg Prod.fst hway)⟩
    · rw [hway] at hchanges
      dsimp only at hchanges ⊢
      cases hw : t.write (Settings.pathIn st.folder) bytes with
      | error f => exact ⟨t, rfl, .folders _ (congrArg Prod.fst hway)⟩
      | ok t' =>
        rw [hw] at hchanges
        have hwritten : (st.tree.ensureWay (Settings.pathIn st.folder)).1.write
            (Settings.pathIn st.folder) bytes = .ok t' := by rw [hway, hw]
        exact ⟨t', rfl, .written _ (hchanges rfl) hwritten⟩
  | remove =>
    have hchanges (h : (st.perform .remove).value.1 = .done true) : st.Changes .remove := h
    rw [next]
    rw [perform.eq_def] at hchanges ⊢
    dsimp only at hchanges ⊢
    cases hr : st.tree.remove (Settings.pathIn st.folder) with
    | error f => exact ⟨st.tree, rfl, .folders [] rfl⟩
    | ok t =>
      rw [hr] at hchanges
      exact ⟨t, rfl, .removed (hchanges rfl) hr⟩
  | makeFolder path =>
    rw [next, perform.eq_def]
    dsimp only
    rcases hfolders : st.tree.ensureFolders (st.root.join path) with ⟨t, f | ⟨⟩⟩
    · exact ⟨t, rfl, .folders _ (congrArg Prod.fst hfolders)⟩
    · exact ⟨t, rfl, .folders _ (congrArg Prod.fst hfolders)⟩
  | makeFile path =>
    rw [next, perform.eq_def]
    dsimp only
    cases hw : st.tree.write (st.root.join path) [] with
    | error f => exact ⟨st.tree, rfl, .folders [] rfl⟩
    | ok t =>
      refine ⟨t, rfl, ?_⟩
      by_cases hsame : st.tree.SameFile (st.root.join path) st.file
      · exact .written [] hsame hw
      · exact .elsewhere hsame hw

/-- What is in the settings file stays there unless the step changes the file. -/
lemma Effect.read {step : StoreStep} {t : Tree} (h : st.Effect step t) (hstep : ¬st.Changes step)
    {bytes : List UInt8} (hr : st.tree.read st.file = .ok bytes) :
    t.read st.file = .ok bytes := by
  cases h with
  | folders ps hps => exact hps ▸ (Tree.grows_ensureChain st.tree ps).read hr
  | written _ hchanges => exact absurd hchanges hstep
  | removed hchanges => exact absurd hchanges hstep
  | elsewhere hother hw => exact Tree.read_of_write_other hw hother hr

/-- A step leaves everything in a folder. -/
lemma Effect.closed {step : StoreStep} {t : Tree} (h : st.Effect step t) (hst : st.tree.Closed) :
    t.Closed := by
  cases h with
  | folders ps hps => exact hps ▸ hst.ensureChain ps
  | written _ _ hw => exact (hst.ensureChain _).write hw
  | removed _ hr => exact hst.remove hr
  | elsewhere _ hw => exact hst.write hw

/-! ### Runs -/

lemma closed_empty (root : Path) (folder : String) : (empty root folder).tree.Closed :=
  Tree.closed_empty.ensureChain _

lemma closed_after (h : st.tree.Closed) (steps : List StoreStep) :
    (st.after steps).tree.Closed := by
  induction steps generalizing st with
  | nil => exact h
  | cons step rest ih =>
    obtain ⟨t, hnext, heffect⟩ := st.exists_effect step
    refine ih ?_
    rw [← next, hnext]
    exact heffect.closed h

/-- A run stays in its folder, and what is in the settings file stays there as long as no step
changes the file. -/
lemma read_after {steps : List StoreStep} {bytes : List UInt8}
    (h : st.tree.read st.file = .ok bytes) (hsteps : st.Leaves steps) :
    (st.after steps).folder = st.folder ∧ (st.after steps).tree.read st.file = .ok bytes := by
  induction steps generalizing st with
  | nil => exact ⟨rfl, h⟩
  | cons step rest ih =>
    obtain ⟨hstep, hrest⟩ := hsteps
    obtain ⟨t, hnext, heffect⟩ := st.exists_effect step
    rw [after_cons]
    rw [hnext] at hrest ⊢
    exact ih (heffect.read hstep h) hrest

lemma answer_read_eq_iff {bytes : List UInt8} :
    st.answer .read = .content (some bytes) ↔ st.tree.read st.file = .ok bytes := by
  rw [answer_read, StoreAnswer.content.injEq]
  cases st.tree.read st.file <;> simp [Except.toOption]

/-- Settings are loaded exactly if there is nothing to load them from, and they are the defaults, or
if what is there holds them. -/
lemma answer_load_eq_ok_iff {s : Settings} :
    st.answer .load = .loaded (.ok s) ↔
      st.tree.contains st.file = false ∧ s = {} ∨
      ∃ bytes cs, st.answer .read = .content (some bytes) ∧
        Text.Utf8.decode? bytes = some cs ∧ Settings.read (String.ofList cs) = .ok s := by
  simp only [answer_read_eq_iff, answer_load, StoreAnswer.loaded.injEq]
  exact Settings.load_eq_ok_iff

/-- Where the path of the settings file does not go up from anything missing, a save that fails
changes no answer about the file. -/
lemma answers_after_failed_save (hst : st.tree.Closed) {s : Settings}
    (h : st.answer (.save s) ≠ .saved (.ok ())) (hup : ¬st.tree.GoesUpFromMissing st.file) :
    (st.next (.save s)).answer .read = st.answer .read ∧
      (st.next (.save s)).tree.contains st.file = st.tree.contains st.file ∧
      (st.next (.save s)).answer .load = st.answer .load := by
  have hgrow := Tree.grows_ensureChain st.tree (st.folder :: st.folder.ancestors)
  obtain ⟨hcontains, hoption, hread⟩ := hgrow.contains_read fun place n =>
    hgrow.reach_of_reach hst (Settings.steps_pathIn st.folder)
      (fun q => Settings.steps_prefix_of_mem) hup
  rw [next_failed_save h]
  refine ⟨congrArg StoreAnswer.content hoption, hcontains, congrArg StoreAnswer.loaded ?_⟩
  exact Settings.load_congr hcontains hread

/-- **The settings file.**  After any run of steps below an empty root, whatever the folder:

* settings whose saving is reported as done are what is loaded, until a later step changes their
  file;
* a save that fails makes, changes and removes no file, and a settings file that could be read holds
  what it held; unless the path of the file goes up from something that is missing, all else that
  can be asked about the file has the same answer too;
* loading changes nothing;
* settings are loaded exactly if there is nothing at the path, and they are the defaults, or if what
  is there is text that holds them; if what is there cannot be read, is no text or holds no
  settings, the answer is a fault. -/
theorem run_keeps_settings (root : Path) (folder : String) (steps : List StoreStep) :
    let st := (empty root folder).after steps
    (∀ s later, st.answer (.save s) = .saved (.ok ()) → (st.next (.save s)).Leaves later →
      ((st.next (.save s)).after later).answer .load = .loaded (.ok s)) ∧
    (∀ s f, st.answer (.save s) = .saved (.error f) →
      (∀ place n c, (st.next (.save s)).tree.find? place = some (.file n c) ↔
        st.tree.find? place = some (.file n c)) ∧
      (∀ bytes, st.answer .read = .content (some bytes) →
        (st.next (.save s)).answer .read = .content (some bytes)) ∧
      (¬st.tree.GoesUpFromMissing st.file →
        (st.next (.save s)).answer .read = st.answer .read ∧
        (st.next (.save s)).tree.contains st.file = st.tree.contains st.file ∧
        (st.next (.save s)).answer .load = st.answer .load)) ∧
    st.next .load = st ∧
    (∀ s, st.answer .load = .loaded (.ok s) ↔
      st.tree.contains st.file = false ∧ s = {} ∨
      ∃ bytes cs, st.answer .read = .content (some bytes) ∧
        Text.Utf8.decode? bytes = some cs ∧ Settings.read (String.ofList cs) = .ok s) ∧
    (st.tree.contains st.file = true →
      (¬∃ bytes cs s, st.answer .read = .content (some bytes) ∧
        Text.Utf8.decode? bytes = some cs ∧ Settings.read (String.ofList cs) = .ok s) →
      ∃ f, st.answer .load = .loaded (.error f)) := by
  intro st
  have hst : st.tree.Closed := closed_after (closed_empty root folder) steps
  refine ⟨?_, ?_, rfl, fun _ => answer_load_eq_ok_iff, ?_⟩
  · intro s later hsave hlater
    obtain ⟨text, hs, hread⟩ := read_after_save hsave
    obtain ⟨hfolder, hread'⟩ := read_after hread hlater
    rw [answer_load, hfolder]
    exact congrArg StoreAnswer.loaded (Settings.load_of_read_written hs hread')
  · intro s f hsave
    have hfail : st.answer (.save s) ≠ .saved (.ok ()) := by
      rw [hsave]
      exact nofun
    have hgrow : Tree.Grows (st.folder :: st.folder.ancestors) st.tree
        (st.next (.save s)).tree := by
      rw [next_failed_save hfail]
      exact Tree.grows_ensureChain _ _
    refine ⟨fun _ _ _ => hgrow.find?_file_iff, ?_, answers_after_failed_save hst hfail⟩
    intro bytes hbytes
    have hread := hgrow.read (answer_read_eq_iff.1 hbytes)
    rw [next_failed_save hfail] at hread ⊢
    exact answer_read_eq_iff.2 hread
  · intro hc hnone
    cases hload : Settings.load st.tree st.folder with
    | error f => exact ⟨f, congrArg StoreAnswer.loaded hload⟩
    | ok s =>
      have hanswer : st.answer .load = .loaded (.ok s) := congrArg StoreAnswer.loaded hload
      rcases answer_load_eq_ok_iff.1 hanswer with ⟨hc', -⟩ | ⟨bytes, cs, h⟩
      · exact nomatch hc.symm.trans hc'
      · exact absurd ⟨bytes, cs, s, h⟩ hnone

/-- Without the folder `x` the path `x/../y` leads nowhere.  A save that cannot write its settings
makes `x` all the same, and with it the file in `y` comes to light. -/
theorem failed_save_reveals_file :
    ¬∀ (root : Path) (folder : String) (steps : List StoreStep) (s : Settings) (f : StoreFault),
      let st := (empty root folder).after steps
      st.answer (.save s) = .saved (.error f) →
        (st.next (.save s)).answer .read = st.answer .read := by
  intro h
  have hread := h ⟨"/r"⟩ "x/../y" [.makeFolder "y", .makeFile "y/runner.toml"]
    { notifyRetry := ⟨5, 0x8000000000000000, 200⟩ } (.write .timeOutOfRange)
    (congrArg StoreAnswer.saved (by decide +kernel))
  exact absurd (StoreAnswer.content.inj hread) (by decide +kernel)

end SettingsStore

end LaunchGuard
