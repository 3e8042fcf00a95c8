/-
# Looking up in a list of entries

Locks and nodes are kept in lists of entries with a key, the first of which counts.  Replacing the
entries of a key, or taking them out, shows at that key and nowhere else.
-/
import Mathlib.Data.List.Nodup

namespace LaunchGuard

variable {κ β : Type} [BEq κ] [LawfulBEq κ] {k k' : κ}

lemma lookup_cons_of_ne (h : k' ≠ k) (v : β) (l : List (κ × β)) :
    ((k, v) :: l).lookup k' = l.lookup k' := by
  rw [List.lookup_cons, beq_eq_false_iff_ne.2 h]

lemma notMem_of_lookup_eq_none {l : List (κ × β)} (h : l.lookup k = none) :
    k ∉ l.map Prod.fst := by
  intro hk
  obtain ⟨e, he, rfl⟩ := List.mem_map.1 hk
  exact bne_iff_ne.1 (List.lookup_eq_none_iff.1 h e he) rfl

/-- An entry of a list in which no key comes twice is the one that is found at its key. -/
lemma lookup_eq_some_iff_mem {l : List (κ × β)} (hl : (l.map Prod.fst).Nodup) {v : β} :
    l.lookup k = some v ↔ (k, v) ∈ l := by
  induction l with
  | nil => simp
  | cons e l ih =>
    obtain ⟨j, w⟩ := e
    obtain ⟨hj, hl⟩ := List.nodup_cons.1 hl
    by_cases hk : k = j
    · subst hk
      have hnot : (k, v) ∉ l := fun h => hj (List.mem_map.2 ⟨_, h, rfl⟩)
      rw [List.lookup_cons_self, List.mem_cons, or_iff_left hnot, Prod.mk.injEq, Option.some.injEq]
      exact ⟨fun h => ⟨rfl, h.symm⟩, fun h => h.2.symm⟩
    · rw [lookup_cons_of_ne hk, ih hl, List.mem_cons, or_iff_right fun h => hk (Prod.mk.inj h).1]

/-- Lists in which no key comes twice have the same entries, if the same is found in them. -/
lemma perm_of_lookup_eq {l l' : List (κ × β)} (hl : (l.map Prod.fst).Nodup)
    (hl' : (l'.map Prod.fst).Nodup) (h : ∀ k, l.lookup k = l'.lookup k) : l.Perm l' := by
  refine (List.perm_ext_iff_of_nodup hl.of_map hl'.of_map).2 ?_
  rintro ⟨k, v⟩
  rw [← lookup_eq_some_iff_mem hl, ← lookup_eq_some_iff_mem hl', h]

/-- An entry with a key of its own may come at the end. -/
lemma nodup_keys_concat {l : List (κ × β)} (hl : (l.map Prod.fst).Nodup)
    (hfree : l.lookup k = none) (v : β) : ((l ++ [(k, v)]).map Prod.fst).Nodup := by
  rw [List.map_append, List.map_singleton, List.nodup_append]
  refine ⟨hl, List.pairwise_singleton _ k, fun j hj i hi => ?_⟩
  rw [List.mem_singleton.1 hi]
  rintro rfl
  exact notMem_of_lookup_eq_none hfree hj

/-- Taking out entries by their keys shows at these keys only. -/
lemma lookup_filter (l : List (κ × β)) (p : κ → Bool) (k : κ) :
    (l.filter fun e => p e.1).lookup k = if p k then l.lookup k else none := by
  induction l with
  | nil => simp
  | cons e l ih =>
    obtain ⟨j, w⟩ := e
    rw [List.filter_cons]
    by_cases hj : p j = true
    · rw [if_pos hj]
      by_cases hk : k = j
      · subst hk
        rw [List.lookup_cons_self, List.lookup_cons_self, if_pos hj]
      · rw [lookup_cons_of_ne hk, lookup_cons_of_ne hk, ih]
    · rw [if_neg hj, ih]
      by_cases hk : k = j
      · subst hk
        rw [if_neg hj, if_neg hj]
      · rw [lookup_cons_of_ne hk]

variable [DecidableEq κ]

omit [BEq κ] [LawfulBEq κ] in
lemma keys_replace (l : List (κ × β)) (k : κ) (v : β) :
    (l.map fun e => if e.1 = k then (k, v) else e).map Prod.fst = l.map Prod.fst := by
  rw [List.map_map]
  refine List.map_congr_left fun e _ => ?_
  rw [Function.comp_apply]
  split
  · next he => exact he.symm
  · rfl

lemma lookup_replace (l : List (κ × β)) (k k' : κ) (v : β) :
    (l.map fun e => if e.1 = k then (k, v) else e).lookup k' =
      if k' = k then (l.lookup k).map fun _ => v else l.lookup k' := by
  induction l with
  | nil => simp
  | cons e l ih =>
    obtain ⟨j, w⟩ := e
    rw [List.map_cons]
    by_cases hj : j = k
    · subst hj
      rw [if_pos rfl]
      by_cases hk : k' = j
      · subst hk
        rw [List.lookup_cons_self, List.lookup_cons_self, if_pos rfl, Option.map_some]
      · rw [lookup_cons_of_ne hk, lookup_cons_of_ne hk, ih, if_neg hk, if_neg hk]
    · rw [if_neg hj, lookup_cons_of_ne (Ne.symm hj)]
      by_cases hk : k' = k
      · subst hk
        rw [lookup_cons_of_ne (Ne.symm hj), ih, if_pos rfl, if_pos rfl]
      · rw [List.lookup_cons, List.lookup_cons, ih, if_neg hk, if_neg hk]

lemma lookup_remove (l : List (κ × β)) (k k' : κ) :
    (l.filter (·.1 ≠ k)).lookup k' = if k' = k then none else l.lookup k' := by
  rw [lookup_filter l (· ≠ k), decide_not]
  by_cases hk : k' = k <;> simp [hk]

omit [BEq κ] [LawfulBEq κ] in
lemma remove_of_notMem {l : List (κ × β)} (h : k ∉ l.map Prod.fst) : l.filter (·.1 ≠ k) = l := by
  refine List.filter_eq_self.2 fun e he => ?_
  have hne : e.1 ≠ k := fun hk => h (List.mem_map.2 ⟨e, he, hk⟩)
  simpa using hne

/-- An entry may be replaced by itself. -/
lemma replace_self {l : List (κ × β)} (hl : (l.map Prod.fst).Nodup) {v : β}
    (h : l.lookup k = some v) : (l.map fun e => if e.1 = k then (k, v) else e) = l := by
  refine (List.map_congr_left fun e he => ?_).trans (List.map_id l)
  obtain ⟨j, w⟩ := e
  split
  · next hj =>
    obtain rfl : j = k := hj
    cases h.symm.trans ((lookup_eq_some_iff_mem hl).2 he)
    rfl
  · rfl

/-- Among the entries with a property, the one of a key counts apart from the others. -/
lemma countP_eq_add_lookup {l : List (κ × β)} (hl : (l.map Prod.fst).Nodup) (p : β → Bool) (k : κ) :
    l.countP (p ·.2) = (l.filter (·.1 ≠ k)).countP (p ·.2) + ((l.lookup k).any p).toNat := by
  induction l with
  | nil => rfl
  | cons e l ih =>
    obtain ⟨j, w⟩ := e
    obtain ⟨hj, hl⟩ := List.nodup_cons.1 hl
    by_cases hk : k = j
    · subst hk
      rw [List.filter_cons_of_neg (by simp), remove_of_notMem hj, List.lookup_cons_self,
        Option.any_some, List.countP_cons]
      cases p w <;> rfl
    · rw [List.filter_cons_of_pos (by simpa using Ne.symm hk), lookup_cons_of_ne hk,
        List.countP_cons, List.countP_cons, ih hl]
      omega

end LaunchGuard
