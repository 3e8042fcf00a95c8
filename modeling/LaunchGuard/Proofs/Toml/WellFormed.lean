/-
# Well-formed values

Every integer of a document fits into 64 bits with a sign, and no table of it has a key twice,
however deep in arrays and tables they lie.  Words give no other integers, a key gets a value only
where it has none, and nothing that is done to values on the way makes new ones.
-/
import LaunchGuard.Toml.Document
import LaunchGuard.Proofs.Entries
import LaunchGuard.Proofs.Outcomes
import LaunchGuard.Proofs.Toml.Words

namespace LaunchGuard.Toml

/-- All integers in a value fit into 64 bits with a sign, and no table in it has a key twice. -/
inductive Value.WellFormed : Value → Prop where
  | scalar {m : Nat} {x : Scalar} :
    (∀ n, x = .integer n → inRange n = true) → WellFormed (.scalar m x)
  | array {m : Nat} {o : Origin} {items : List Value} :
    (∀ v ∈ items, WellFormed v) → WellFormed (.array m o items)
  | table {m : Nat} {o : Origin} {es : List (String × Value)} :
    (es.map Prod.fst).Nodup → (∀ e ∈ es, WellFormed e.2) → WellFormed (.table m o es)

/-- The entries of a table have distinct keys and well-formed values. -/
structure Entries.WellFormed (es : Entries) : Prop where
  distinct : (es.map Prod.fst).Nodup
  values : ∀ e ∈ es, e.2.WellFormed

/-- All values that a reader reads are well-formed. -/
def ValueReader.WellFormed (item : ValueReader) : Prop :=
  ∀ cs v rest, item cs = some (v, rest) → v.WellFormed

variable {es inner : Entries} {v : Value}

/-! ### Entries -/

namespace Entries

lemma wellFormed_nil : Entries.WellFormed [] := ⟨List.nodup_nil, nofun⟩

namespace WellFormed

lemma lookup (h : es.WellFormed) {name : String} (hv : es.lookup name = some v) :
    v.WellFormed :=
  h.values (name, v) ((lookup_eq_some_iff_mem h.distinct).1 hv)

/-- A key that is not there may be added. -/
lemma snoc (h : es.WellFormed) {name : String} (hfree : es.lookup name = none)
    (hv : v.WellFormed) : Entries.WellFormed (es ++ [(name, v)]) where
  distinct := nodup_keys_concat h.distinct hfree v
  values e he := by
    rcases List.mem_append.1 he with he | he
    · exact h.values e he
    · rw [List.mem_singleton.1 he]
      exact hv

lemma set (h : es.WellFormed) (name : String) (hv : v.WellFormed) :
    (es.set name v).WellFormed where
  distinct := by
    rw [Entries.set, keys_replace]
    exact h.distinct
  values e he := by
    obtain ⟨e', he', rfl⟩ := List.mem_map.1 he
    split
    · exact hv
    · exact h.values e' he'

lemma filter (h : es.WellFormed) (p : String × Value → Bool) :
    Entries.WellFormed (es.filter p) where
  distinct := h.distinct.sublist (List.filter_sublist.map _)
  values e he := h.values e (List.mem_filter.1 he).1

end WellFormed

end Entries

lemma Value.WellFormed.entries {m : Nat} {o : Origin} (h : (Value.table m o es).WellFormed) :
    es.WellFormed := by
  cases h with
  | table hkeys hvalues => exact ⟨hkeys, hvalues⟩

lemma Entries.WellFormed.table (h : es.WellFormed) (m : Nat) (o : Origin) :
    (Value.table m o es).WellFormed :=
  .table h.distinct h.values

lemma Value.WellFormed.items {m : Nat} {o : Origin} {items : List Value}
    (h : (Value.array m o items).WellFormed) : ∀ v ∈ items, v.WellFormed := by
  cases h with
  | array hitems => exact hitems

lemma Value.WellFormed.inside (h : v.WellFormed) (hinner : v.inside? = some inner) :
    inner.WellFormed := by
  rw [Value.inside?.eq_def] at hinner
  split at hinner
  · cases hinner
    exact h.entries
  · next m items =>
    split at hinner
    · next hlast =>
      cases hinner
      exact (h.items _ (List.mem_of_getLast? hlast)).entries
    · cases hinner
  · cases hinner

lemma Value.WellFormed.withInside (h : v.WellFormed) (hinner : inner.WellFormed) :
    (v.withInside inner).WellFormed := by
  rw [Value.withInside.eq_def]
  split
  · exact hinner.table _ _
  · next m items =>
    split
    · refine .array fun w hw => ?_
      rcases List.mem_append.1 hw with hw | hw
      · exact h.items w (List.dropLast_subset items hw)
      · rw [List.mem_singleton.1 hw]
        exact hinner.table _ _
    · exact h
  · exact h

lemma Entries.WellFormed.assign {last : Key} (hv : v.WellFormed) {above : List Key}
    {es es' : Entries} (h : es.WellFormed) (hassign : es.assign last v above = some es') :
    es'.WellFormed := by
  induction above generalizing es es' with
  | nil =>
    rw [Entries.assign] at hassign
    split at hassign
    · cases hassign
    · next hfree =>
      cases hassign
      exact h.snoc (Option.not_isSome_iff_eq_none.1 hfree) hv
  | cons k ks ih =>
    rw [Entries.assign] at hassign
    split at hassign
    · next hfree =>
      obtain ⟨inner, hinner, hes'⟩ := Option.bind_eq_some_iff.1 hassign
      cases hes'
      exact h.snoc hfree ((ih Entries.wellFormed_nil hinner).table _ _)
    · next child hchild =>
      have hin : child.WellFormed := h.lookup hchild
      split at hassign
      · obtain ⟨old, hold, hassign⟩ := Option.bind_eq_some_iff.1 hassign
        obtain ⟨inner, hinner, hes'⟩ := Option.bind_eq_some_iff.1 hassign
        cases hes'
        exact h.set k.name (hin.withInside (ih (hin.inside hold) hinner))
      · cases hassign

lemma Entries.WellFormed.assignAll {as : List Assignment} {es' : Entries} (h : es.WellFormed)
    (has : ∀ a ∈ as, a.value.WellFormed) (hassign : es.assignAll as = some es') : es'.WellFormed :=
  foldlM_some_induction h (fun a ha _ _ hc hstep => hc.assign (has a ha) hstep) hassign

/-! ### Values -/

/-- A word stands for no integer that does not fit. -/
lemma inRange_of_readWord {cs rest : List Char} {x : Scalar} (h : readWord cs = some (x, rest))
    {n : Int} (hx : x = .integer n) : inRange n = true := by
  subst hx
  rw [readWord] at h
  split at h
  · split at h
    · dsimp only at h
      split at h
      · cases h
      · cases h
    · cases h
  · obtain ⟨y, hy, hpair⟩ := Option.map_eq_some_iff.1 h
    cases hpair
    exact inRange_of_ofWord? hy

lemma wellFormed_readScalar : ValueReader.WellFormed readScalar := by
  intro cs v rest h
  rw [readScalar.eq_def] at h
  split at h
  · obtain ⟨⟨s, rest'⟩, -, hv⟩ := Option.bind_eq_some_iff.1 h
    cases hv
    exact .scalar nofun
  · obtain ⟨⟨s, rest'⟩, -, hv⟩ := Option.bind_eq_some_iff.1 h
    cases hv
    exact .scalar nofun
  · obtain ⟨⟨x, rest'⟩, hx, hv⟩ := Option.bind_eq_some_iff.1 h
    cases hv
    exact .scalar fun n => inRange_of_readWord hx

section Brackets

variable {item : ValueReader} (hitem : item.WellFormed)

include hitem

lemma wellFormed_readItems {fuel : Nat} {cs rest : List Char} {vs : List Value}
    (h : readItems item fuel cs = some (vs, rest)) : ∀ v ∈ vs, v.WellFormed := by
  induction fuel generalizing cs vs with
  | zero => cases h
  | succ fuel ih =>
    rw [readItems] at h
    split at h
    · cases h
      exact nofun
    · obtain ⟨⟨v, rest'⟩, hv, h⟩ := Option.bind_eq_some_iff.1 h
      have hfirst : v.WellFormed := hitem _ _ _ hv
      dsimp only at h
      split at h
      · obtain ⟨⟨ws, rest''⟩, hws, hvs⟩ := Option.bind_eq_some_iff.1 h
        cases hvs
        exact List.forall_mem_cons.2 ⟨hfirst, ih hws⟩
      · cases h
        exact List.forall_mem_singleton.2 hfirst
      · cases h

lemma wellFormed_readAssignment {cs rest : List Char} {a : Assignment}
    (h : readAssignment item cs = some (a, rest)) : a.value.WellFormed := by
  obtain ⟨⟨path, rest'⟩, -, h⟩ := Option.bind_eq_some_iff.1 h
  dsimp only at h
  split at h
  · obtain ⟨⟨v, rest''⟩, hv, ha⟩ := Option.bind_eq_some_iff.1 h
    cases ha
    exact hitem _ _ _ hv
  · cases h

lemma wellFormed_readAssignments {fuel : Nat} {cs rest : List Char} {as : List Assignment}
    (h : readAssignments item fuel cs = some (as, rest)) : ∀ a ∈ as, a.value.WellFormed := by
  induction fuel generalizing cs as with
  | zero => cases h
  | succ fuel ih =>
    obtain ⟨⟨a, rest'⟩, ha, h⟩ := Option.bind_eq_some_iff.1 h
    have hfirst : a.value.WellFormed := wellFormed_readAssignment hitem ha
    dsimp only at h
    split at h
    · obtain ⟨⟨bs, rest''⟩, hbs, has⟩ := Option.bind_eq_some_iff.1 h
      cases has
      exact List.forall_mem_cons.2 ⟨hfirst, ih hbs⟩
    · cases h
      exact List.forall_mem_singleton.2 hfirst
    · cases h

end Brackets

/-- However deep the brackets are, what is in them is well-formed. -/
lemma wellFormed_readValue (depth : Nat) : ValueReader.WellFormed (readValue depth) := by
  induction depth with
  | zero => exact wellFormed_readScalar
  | succ depth ih =>
    intro cs v rest h
    rw [readValue.eq_def] at h
    dsimp only at h
    split at h
    · obtain ⟨⟨items, rest'⟩, hitems, hv⟩ := Option.bind_eq_some_iff.1 h
      cases hv
      exact .array (wellFormed_readItems ih hitems)
    · split at h
      · cases h
        exact Entries.wellFormed_nil.table _ _
      · obtain ⟨⟨as, rest'⟩, has, h⟩ := Option.bind_eq_some_iff.1 h
        obtain ⟨es, hes, hv⟩ := Option.bind_eq_some_iff.1 h
        cases hv
        have hentries := Entries.wellFormed_nil.assignAll (wellFormed_readAssignments ih has) hes
        exact hentries.table _ _
    · exact wellFormed_readScalar cs v rest h

/-! ### Documents -/

/-- The value in a statement is well-formed. -/
def Statement.WellFormed : Statement → Prop
  | .header .. => True
  | .assign a => a.value.WellFormed

lemma wellFormed_readHeader {m : Nat} {repeated : Bool} {cs rest : List Char} {st : Statement}
    (h : readHeader m repeated cs = some (st, rest)) : st.WellFormed := by
  obtain ⟨⟨path, rest'⟩, -, h⟩ := Option.bind_eq_some_iff.1 h
  dsimp only at h
  split at h
  · cases h
    trivial
  · cases h
    trivial
  · cases h

lemma wellFormed_readStatement {cs rest : List Char} {st : Statement}
    (h : readStatement cs = some (st, rest)) : st.WellFormed := by
  rw [readStatement.eq_def] at h
  split at h
  · exact wellFormed_readHeader h
  · exact wellFormed_readHeader h
  · obtain ⟨⟨a, rest'⟩, ha, hst⟩ := Option.bind_eq_some_iff.1 h
    cases hst
    exact wellFormed_readAssignment (wellFormed_readValue depthLimit) ha

lemma wellFormed_readStatements {fuel : Nat} {cs : List Char} {ss : List Statement}
    (h : readStatements fuel cs = .ok ss) : ∀ st ∈ ss, st.WellFormed := by
  induction fuel generalizing cs ss with
  | zero => cases h
  | succ fuel ih =>
    rw [readStatements] at h
    dsimp only at h
    split at h
    · cases h
      exact nofun
    · split at h
      · cases h
      · next st rest hstep =>
        obtain ⟨⟨st', rest'⟩, hst, hrest⟩ := Option.bind_eq_some_iff.1 hstep
        obtain ⟨rest'', -, hpair⟩ := Option.bind_eq_some_iff.1 hrest
        cases hpair
        obtain ⟨sts, hsts, rfl⟩ := map_eq_ok_iff.1 h
        exact List.forall_mem_cons.2 ⟨wellFormed_readStatement hst, ih hsts⟩

lemma wellFormed_sections {ss : List Statement} (h : ∀ st ∈ ss, st.WellFormed) :
    (∀ a ∈ (sections ss).1, a.value.WellFormed) ∧
      ∀ t ∈ (sections ss).2, ∀ a ∈ t.body, a.value.WellFormed := by
  induction ss with
  | nil => exact ⟨nofun, nofun⟩
  | cons st ss ih =>
    obtain ⟨hst, hss⟩ := List.forall_mem_cons.1 h
    obtain ⟨hstart, hrest⟩ := ih hss
    cases st with
    | assign a => exact ⟨List.forall_mem_cons.2 ⟨hst, hstart⟩, hrest⟩
    | header m repeated path => exact ⟨nofun, List.forall_mem_cons.2 ⟨hstart, hrest⟩⟩

namespace Section

variable {s : Section} (hbody : ∀ a ∈ s.body, a.value.WellFormed)

include hbody

lemma wellFormed_place {es' : Entries} (h : es.WellFormed) (hplace : s.place es = some es') :
    es'.WellFormed := by
  rw [place] at hplace
  dsimp only at hplace
  split at hplace
  · obtain ⟨body, hassign, hplace⟩ := Option.bind_eq_some_iff.1 hplace
    have htable : (Value.table s.mark .header body).WellFormed :=
      (Entries.wellFormed_nil.assignAll hbody hassign).table _ _
    split at hplace
    · next hfree =>
      cases hplace
      exact h.snoc hfree (.array (List.forall_mem_singleton.2 htable))
    · next m items hold =>
      cases hplace
      refine h.set _ (.array fun v hv => ?_)
      rcases List.mem_append.1 hv with hv | hv
      · exact (h.lookup hold).items v hv
      · rw [List.mem_singleton.1 hv]
        exact htable
    · cases hplace
  · split at hplace
    · next hfree =>
      obtain ⟨body, hassign, hes'⟩ := Option.bind_eq_some_iff.1 hplace
      cases hes'
      exact h.snoc hfree ((Entries.wellFormed_nil.assignAll hbody hassign).table _ _)
    · next m inner hold =>
      obtain ⟨body, hassign, hes'⟩ := Option.bind_eq_some_iff.1 hplace
      cases hes'
      -- the table moves to the end, so its key is free there
      have hfree : List.lookup s.path.last.name (es.filter (·.1 ≠ s.path.last.name)) = none :=
        (lookup_remove es _ _).trans (if_pos rfl)
      exact (h.filter _).snoc hfree (((h.lookup hold).entries.assignAll hbody hassign).table _ _)
    · cases hplace

lemma wellFormed_placeUnder {above : List Key} {es es' : Entries} (h : es.WellFormed)
    (hplace : s.placeUnder above es = some es') : es'.WellFormed := by
  induction above generalizing es es' with
  | nil => exact wellFormed_place hbody h hplace
  | cons k ks ih =>
    rw [placeUnder] at hplace
    split at hplace
    · next hfree =>
      obtain ⟨inner, hinner, hes'⟩ := Option.bind_eq_some_iff.1 hplace
      cases hes'
      exact h.snoc hfree ((ih Entries.wellFormed_nil hinner).table _ _)
    · cases hplace
    · next child _ hchild =>
      have hin : child.WellFormed := h.lookup hchild
      obtain ⟨old, hold, hplace⟩ := Option.bind_eq_some_iff.1 hplace
      obtain ⟨inner, hinner, hes'⟩ := Option.bind_eq_some_iff.1 hplace
      cases hes'
      exact h.set k.name (hin.withInside (ih (hin.inside hold) hinner))

end Section

lemma wellFormed_build {ss : List Statement} (h : ∀ st ∈ ss, st.WellFormed)
    (hbuild : build ss = some es) : es.WellFormed := by
  obtain ⟨hstart, hrest⟩ := wellFormed_sections h
  rw [build] at hbuild
  obtain ⟨start, hassign, hplace⟩ := Option.bind_eq_some_iff.1 hbuild
  refine foldlM_some_induction (Entries.wellFormed_nil.assignAll hstart hassign) ?_ hplace
  intro t ht es es' hes hstep
  exact Section.wellFormed_placeUnder (hrest t ht) hes hstep

/-- Every document is well-formed. -/
theorem wellFormed_read {cs : List Char} (h : Toml.read cs = .ok es) : es.WellFormed := by
  rw [Toml.read] at h
  obtain ⟨ss, hss, h⟩ := bind_eq_ok_iff.1 h
  split at h
  · next hbuild =>
    cases h
    exact wellFormed_build (wellFormed_readStatements hss) hbuild
  · cases h

end LaunchGuard.Toml
