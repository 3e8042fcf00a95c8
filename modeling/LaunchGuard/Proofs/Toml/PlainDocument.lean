/-
# Plain documents

A plain document is a run of plain lines, and then sections of plain lines, each below its header.
If no key is there twice, the document is read as what it says: its entries come in the order of the
lines, one table for each section, and only the marks depend on the places in the text.
-/
import Mathlib.Data.List.Forall2
import LaunchGuard.Toml.Document
import LaunchGuard.Proofs.Entries
import LaunchGuard.Proofs.Toml.Lines

namespace LaunchGuard.Toml

/-- A line with a key and a word, and the scalar that the word stands for. -/
structure PlainLine where
  key : List Char
  word : List Char
  content : Scalar
  bareKey : IsBareKey key
  bareWord : IsBareWord word
  stands : ofWord? word = some content

/-- A header and the lines below it. -/
structure PlainSection where
  key : List Char
  lines : List PlainLine
  bareKey : IsBareKey key

/-- The lines before the first header, and the sections. -/
structure PlainDocument where
  start : List PlainLine
  sections : List PlainSection

namespace PlainLine

/-- The text of a line. -/
def text (l : PlainLine) : List Char := assignmentLine l.key l.word

/-- The line is read as this assignment. -/
def ReadAs (l : PlainLine) (a : Assignment) : Prop :=
  ∃ m m', a = ⟨⟨[], ⟨String.ofList l.key, m⟩⟩, .scalar m' l.content⟩

/-- The line makes this entry. -/
def Makes (l : PlainLine) (e : String × Value) : Prop :=
  ∃ m, e = (String.ofList l.key, .scalar m l.content)

end PlainLine

namespace PlainSection

/-- The text of a section. -/
def text (s : PlainSection) : List Char := headerLine s.key ++ s.lines.flatMap PlainLine.text

/-- The section is read as a header and its assignments. -/
def ReadAs (s : PlainSection) (t : Section) : Prop :=
  ∃ m m' as, t = ⟨m, false, ⟨[], ⟨String.ofList s.key, m'⟩⟩, as⟩ ∧
    List.Forall₂ PlainLine.ReadAs s.lines as

/-- The section makes this entry. -/
def Makes (s : PlainSection) (e : String × Value) : Prop :=
  ∃ m es, e = (String.ofList s.key, .table m .header es) ∧
    List.Forall₂ PlainLine.Makes s.lines es

end PlainSection

namespace PlainDocument

/-- The text of a document. -/
def text (d : PlainDocument) : List Char :=
  d.start.flatMap PlainLine.text ++ d.sections.flatMap PlainSection.text

/-- No key is there twice in one table. -/
structure Distinct (d : PlainDocument) : Prop where
  top : (d.start.map (String.ofList ·.key) ++ d.sections.map (String.ofList ·.key)).Nodup
  inside : ∀ s ∈ d.sections, (s.lines.map (String.ofList ·.key)).Nodup

end PlainDocument

/-! ### Reading the statements -/

/-- With one unit of fuel for each character, lines are read and enough is left for what follows. -/
lemma readStatements_lines (ls : List PlainLine) {fuel : Nat} {rest : List Char}
    (hfuel : (ls.flatMap PlainLine.text ++ rest).length < fuel) :
    ∃ as left, List.Forall₂ PlainLine.ReadAs ls as ∧ rest.length < left ∧
      readStatements fuel (ls.flatMap PlainLine.text ++ rest) =
        (readStatements left rest).map (as.map .assign ++ ·) := by
  induction ls generalizing fuel with
  | nil =>
    refine ⟨[], fuel, .nil, hfuel, ?_⟩
    cases h : readStatements fuel rest <;> simp [h, Except.map]
  | cons l ls ih =>
    obtain ⟨fuel, rfl⟩ : ∃ n, fuel = n + 1 := ⟨fuel - 1, by omega⟩
    have hlength : (ls.flatMap PlainLine.text ++ rest).length < fuel := by
      simp only [List.flatMap_cons, PlainLine.text, assignmentLine, List.length_append,
        List.length_cons] at hfuel ⊢
      omega
    obtain ⟨as, left, has, hleft, hread⟩ := ih hlength
    obtain ⟨m, m', hline⟩ := readStatements_assignmentLine fuel
      (ls.flatMap PlainLine.text ++ rest) l.bareKey l.bareWord l.stands
    refine ⟨_ :: as, left, .cons ⟨m, m', rfl⟩ has, hleft, ?_⟩
    rw [List.flatMap_cons, List.append_assoc, PlainLine.text, hline, hread]
    cases readStatements left rest <;> rfl

/-- The statements of a section. -/
def Section.statements (s : Section) : List Statement :=
  .header s.mark s.repeated s.path :: s.body.map .assign

lemma readStatements_sections (ss : List PlainSection) {fuel : Nat}
    (hfuel : (ss.flatMap PlainSection.text).length < fuel) :
    ∃ ts, List.Forall₂ PlainSection.ReadAs ss ts ∧
      readStatements fuel (ss.flatMap PlainSection.text) =
        .ok (ts.flatMap Section.statements) := by
  induction ss generalizing fuel with
  | nil =>
    obtain ⟨fuel, rfl⟩ : ∃ n, fuel = n + 1 := ⟨fuel - 1, by omega⟩
    exact ⟨[], .nil, rfl⟩
  | cons s ss ih =>
    obtain ⟨fuel, rfl⟩ : ∃ n, fuel = n + 1 := ⟨fuel - 1, by omega⟩
    have hlength :
        (s.lines.flatMap PlainLine.text ++ ss.flatMap PlainSection.text).length < fuel := by
      simp only [List.flatMap_cons, PlainSection.text, headerLine, List.length_append,
        List.length_cons] at hfuel ⊢
      omega
    obtain ⟨as, left, has, hleft, hlines⟩ := readStatements_lines s.lines hlength
    obtain ⟨ts, hts, hread⟩ := ih hleft
    obtain ⟨m, m', hheader⟩ := readStatements_headerLine fuel
      (s.lines.flatMap PlainLine.text ++ ss.flatMap PlainSection.text) s.bareKey
    refine ⟨⟨m, false, ⟨[], ⟨String.ofList s.key, m'⟩⟩, as⟩ :: ts,
      .cons ⟨m, m', as, rfl, has⟩ hts, ?_⟩
    rw [List.flatMap_cons, PlainSection.text, List.append_assoc, hheader, hlines, hread]
    rfl

lemma readStatements_plain (d : PlainDocument) :
    ∃ as ts, List.Forall₂ PlainLine.ReadAs d.start as ∧
      List.Forall₂ PlainSection.ReadAs d.sections ts ∧
      readStatements d.text.length.succ d.text =
        .ok (as.map .assign ++ ts.flatMap Section.statements) := by
  obtain ⟨as, left, has, hleft, hlines⟩ :=
    readStatements_lines d.start (Nat.lt_succ_self d.text.length)
  obtain ⟨ts, hts, hread⟩ := readStatements_sections d.sections hleft
  refine ⟨as, ts, has, hts, ?_⟩
  rw [PlainDocument.text] at hlines ⊢
  rw [hlines, hread]
  rfl

/-! ### Building the entries -/

lemma sections_assign_append (as : List Assignment) (ss : List Statement) :
    sections (as.map .assign ++ ss) = (as ++ (sections ss).1, (sections ss).2) := by
  induction as with
  | nil => rfl
  | cons a as ih => rw [List.map_cons, List.cons_append, sections, ih, List.cons_append]

lemma sections_flatMap (ts : List Section) :
    sections (ts.flatMap Section.statements) = ([], ts) := by
  induction ts with
  | nil => rfl
  | cons t ts ih =>
    rw [List.flatMap_cons, Section.statements, List.cons_append, sections, sections_assign_append,
      ih, List.append_nil]

/-- A loop that adds one entry for each of its items adds all of them if no key is there twice. -/
lemma foldlM_append_entries {α : Type} {step : Entries → α → Option Entries}
    {entry : α → String × Value} {as : List α} {es : Entries}
    (hstep : ∀ a ∈ as, ∀ es : Entries, es.lookup (entry a).1 = none →
      step es a = some (es ++ [entry a]))
    (hkeys : ((es ++ as.map entry).map Prod.fst).Nodup) :
    as.foldlM step es = some (es ++ as.map entry) := by
  induction as generalizing es with
  | nil => simp
  | cons a as ih =>
    have hfresh : es.lookup (entry a).1 = none := by
      rw [List.map_append, List.map_cons, List.map_cons] at hkeys
      rw [List.lookup_eq_none_iff]
      intro e he
      rw [bne_iff_ne]
      intro heq
      exact (List.nodup_append.1 hkeys).2.2 e.1 (List.mem_map_of_mem he) _ (.head _) heq.symm
    rw [List.map_cons, List.append_cons] at hkeys ⊢
    rw [List.foldlM_cons, hstep a (.head as) es hfresh]
    exact ih (fun b hb => hstep b (.tail a hb)) hkeys

/-- The entry that an assignment makes if its key has one part. -/
def Assignment.entry (a : Assignment) : String × Value := (a.path.last.name, a.value)

lemma assignAll_plain {es : Entries} {as : List Assignment}
    (habove : ∀ a ∈ as, a.path.above = [])
    (hkeys : ((es ++ as.map Assignment.entry).map Prod.fst).Nodup) :
    es.assignAll as = some (es ++ as.map Assignment.entry) := by
  refine foldlM_append_entries (fun a ha es hfresh => ?_) hkeys
  rw [habove a ha, Entries.assign, show es.lookup a.path.last.name = none from hfresh]
  rfl

namespace Section

/-- A section with a short header and short keys, none of which is there twice. -/
structure Flat (s : Section) : Prop where
  once : s.repeated = false
  top : s.path.above = []
  short : ∀ a ∈ s.body, a.path.above = []
  distinct : ((s.body.map Assignment.entry).map Prod.fst).Nodup

/-- The entry that a flat section makes. -/
def entry (s : Section) : String × Value :=
  (s.path.last.name, .table s.mark .header (s.body.map Assignment.entry))

lemma placeUnder_flat {s : Section} (hs : s.Flat) {es : Entries}
    (hfresh : es.lookup s.path.last.name = none) :
    s.placeUnder s.path.above es = some (es ++ [s.entry]) := by
  have hbody : Entries.assignAll [] s.body = some (s.body.map Assignment.entry) :=
    assignAll_plain hs.short hs.distinct
  rw [hs.top, placeUnder, place, hs.once]
  simp only [Bool.false_eq_true, if_false, hfresh, hbody]
  rfl

end Section

/-- A flat document is built in the order of its lines. -/
lemma build_flat {as : List Assignment} {ts : List Section}
    (has : ∀ a ∈ as, a.path.above = []) (hts : ∀ t ∈ ts, t.Flat)
    (hkeys : ((as.map Assignment.entry ++ ts.map Section.entry).map Prod.fst).Nodup) :
    build (as.map .assign ++ ts.flatMap Section.statements) =
      some (as.map Assignment.entry ++ ts.map Section.entry) := by
  have hstart : Entries.assignAll [] as = some (as.map Assignment.entry) := by
    rw [List.map_append] at hkeys
    exact assignAll_plain has (List.nodup_append.1 hkeys).1
  rw [build, sections_assign_append, sections_flatMap, List.append_nil]
  simp only [Option.bind_eq_bind, hstart, Option.bind_some]
  exact foldlM_append_entries (fun t ht _ hfresh => Section.placeUnder_flat (hts t ht) hfresh) hkeys

/-! ### Reading a plain document -/

lemma PlainLine.ReadAs.above {l : PlainLine} {a : Assignment} (h : l.ReadAs a) :
    a.path.above = [] := by
  obtain ⟨m, m', rfl⟩ := h
  rfl

lemma PlainLine.ReadAs.makes {l : PlainLine} {a : Assignment} (h : l.ReadAs a) :
    l.Makes a.entry := by
  obtain ⟨m, m', rfl⟩ := h
  exact ⟨m', rfl⟩

/-- What relates to each item of one list relates to all items of the other. -/
lemma forall_mem_of_forall₂ {α β : Type} {r : α → β → Prop} {p : β → Prop} {l : List α}
    {l' : List β} (h : List.Forall₂ r l l') (hp : ∀ a ∈ l, ∀ b, r a b → p b) : ∀ b ∈ l', p b := by
  induction h with
  | nil => exact nofun
  | cons hab _ ih =>
    intro b hb
    rcases List.mem_cons.1 hb with rfl | hb
    · exact hp _ (.head _) _ hab
    · exact ih (fun a ha => hp a (.tail _ ha)) b hb

lemma map_eq_of_forall₂ {α β γ : Type} {r : α → β → Prop} {f : α → γ} {g : β → γ} {l : List α}
    {l' : List β} (h : List.Forall₂ r l l') (hr : ∀ a b, r a b → g b = f a) :
    l'.map g = l.map f := by
  induction h with
  | nil => rfl
  | cons hab _ ih => rw [List.map_cons, List.map_cons, hr _ _ hab, ih]

lemma PlainLine.keys_eq {ls : List PlainLine} {as : List Assignment}
    (h : List.Forall₂ PlainLine.ReadAs ls as) :
    (as.map Assignment.entry).map Prod.fst = ls.map (String.ofList ·.key) := by
  rw [List.map_map]
  refine map_eq_of_forall₂ h ?_
  rintro l a ⟨m, m', rfl⟩
  rfl

lemma PlainLine.makes_all {ls : List PlainLine} {as : List Assignment}
    (h : List.Forall₂ PlainLine.ReadAs ls as) :
    List.Forall₂ PlainLine.Makes ls (as.map Assignment.entry) :=
  List.forall₂_map_right_iff.2 (h.imp fun _ _ => PlainLine.ReadAs.makes)

lemma PlainSection.ReadAs.flat {s : PlainSection} {t : Section} (h : s.ReadAs t)
    (hs : (s.lines.map (String.ofList ·.key)).Nodup) : t.Flat := by
  obtain ⟨m, m', as, rfl, has⟩ := h
  refine ⟨rfl, rfl, forall_mem_of_forall₂ has fun _ _ _ => PlainLine.ReadAs.above, ?_⟩
  rwa [PlainLine.keys_eq has]

lemma PlainSection.ReadAs.makes {s : PlainSection} {t : Section} (h : s.ReadAs t) :
    s.Makes t.entry := by
  obtain ⟨m, m', as, rfl, has⟩ := h
  exact ⟨m, _, rfl, PlainLine.makes_all has⟩

/-- A document begins with a key or an empty line. -/
lemma head?_text_ne (d : PlainDocument) : d.text.head? ≠ some '\uFEFF' := by
  obtain ⟨_ | ⟨l, ls⟩, ss⟩ := d
  · cases ss with
    | nil => exact nofun
    | cons s ss =>
      intro h
      have hfirst : '\n' = '\uFEFF' := Option.some.inj h
      cases hfirst
  · obtain ⟨k, ks, hkey⟩ := List.exists_cons_of_ne_nil l.bareKey.1
    have hk : isKeyChar k = true := l.bareKey.2 k (hkey ▸ .head ks)
    intro h
    have hfirst : k = '\uFEFF' := by
      simpa [PlainDocument.text, PlainLine.text, assignmentLine, hkey] using h
    exact absurd hfirst (ne_of_test hk (by decide))

/-- A plain document is read as its entries, in their order. -/
theorem read_plain {d : PlainDocument} (hd : d.Distinct) :
    ∃ es es', List.Forall₂ PlainLine.Makes d.start es ∧
      List.Forall₂ PlainSection.Makes d.sections es' ∧ Toml.read d.text = .ok (es ++ es') := by
  obtain ⟨as, ts, has, hts, hread⟩ := readStatements_plain d
  have hkeys : ((as.map Assignment.entry ++ ts.map Section.entry).map Prod.fst).Nodup := by
    rw [List.map_append, PlainLine.keys_eq has, List.map_map]
    have hsections : ts.map (Prod.fst ∘ Section.entry) = d.sections.map (String.ofList ·.key) := by
      refine map_eq_of_forall₂ hts ?_
      rintro s t ⟨m, m', as, rfl, -⟩
      rfl
    rw [hsections]
    exact hd.top
  have hbuild := build_flat (forall_mem_of_forall₂ has fun _ _ _ => PlainLine.ReadAs.above)
    (forall_mem_of_forall₂ hts fun s hs t ht => ht.flat (hd.inside s hs)) hkeys
  refine ⟨as.map Assignment.entry, ts.map Section.entry, PlainLine.makes_all has,
    List.forall₂_map_right_iff.2 (hts.imp fun _ _ => PlainSection.ReadAs.makes), ?_⟩
  rw [Toml.read, if_neg (head?_text_ne d)]
  simp only [hread, bind, Except.bind, hbuild]

end LaunchGuard.Toml
