/-
# Overrides one after the other

An override that is present decides whether a single instance is enforced, and one that is absent
leaves this as it was.  Nothing else in the settings ever changes.  Each override reports whether
the switch has moved, and so the last one present decides in the end, and the reports of a change
are odd in number if and only if the switch does not stand where it stood at first.
-/
import Mathlib.Algebra.Ring.Parity
import Mathlib.Data.List.ReduceOption
import LaunchGuard.Proofs.Text.Trimmed
import LaunchGuard.Settings.Basic

namespace LaunchGuard.Settings

variable (s : Settings)

/-! ### One override -/

/-- The words that mean off, without the blanks around them and in lower case, switch the
enforcement off. -/
lemma enforces_eq_false_iff {value : String} :
    enforces value = false ↔ ∃ word, Text.Trimmed value.toList word ∧
      String.ofList (Text.lowerAscii word) ∈ ["false", "0", "no", "off"] := by
  rw [enforces, decide_eq_false_iff_not, not_not]
  simp [Text.trimmed_iff, offWords]

/-- How an override leaves the switch. -/
def decision (v : Option String) : Bool := v.elim s.singleInstance enforces

@[simp] lemma decision_none : s.decision none = s.singleInstance := rfl

@[simp] lemma decision_some (value : String) : s.decision (some value) = enforces value := by
  rw [decision, Option.elim_some]

/-- An override sets the switch as it decides, and reports whether this is a change. -/
lemma override_eq (v : Option String) :
    s.override v = (s.decision v != s.singleInstance, { s with singleInstance := s.decision v }) := by
  cases v <;> simp [override]

/-! ### Runs of overrides -/

lemma overrideAll_cons (v : Option String) (rest : List (Option String)) :
    s.overrideAll (v :: rest) =
      ((s.override v).1 :: ((s.override v).2.overrideAll rest).1,
        ((s.override v).2.overrideAll rest).2) := rfl

lemma overrideAll_append (values rest : List (Option String)) :
    s.overrideAll (values ++ rest) =
      ((s.overrideAll values).1 ++ ((s.overrideAll values).2.overrideAll rest).1,
        ((s.overrideAll values).2.overrideAll rest).2) := by
  induction values generalizing s with
  | nil => rfl
  | cons v values ih => simp [overrideAll_cons, ih]

@[simp] lemma length_overrideAll (values : List (Option String)) :
    (s.overrideAll values).1.length = values.length := by
  induction values generalizing s with
  | nil => rfl
  | cons v values ih => simp [overrideAll_cons, ih]

/-- Every override reports on its own, after those before it. -/
lemma report_overrideAll (before : List (Option String)) (v : Option String)
    (rest : List (Option String)) :
    (s.overrideAll (before ++ v :: rest)).1[before.length]? =
      some ((s.overrideAll before).2.override v).1 := by
  simp [overrideAll_append, overrideAll_cons]

/-- A run of overrides moves nothing but the switch. -/
lemma overrideAll_frame (values : List (Option String)) :
    (s.overrideAll values).2 =
      { s with singleInstance := (s.overrideAll values).2.singleInstance } := by
  induction values generalizing s with
  | nil => rfl
  | cons v values ih =>
    rw [overrideAll_cons, override_eq]
    exact ih _

/-- The last override that is present decides. -/
lemma singleInstance_overrideAll (values : List (Option String)) :
    (s.overrideAll values).2.singleInstance = s.decision values.reduceOption.getLast? := by
  induction values generalizing s with
  | nil => rfl
  | cons v values ih =>
    rw [overrideAll_cons, override_eq, ih]
    cases v with
    | none => simp [decision]
    | some value =>
      cases hlast : values.reduceOption.getLast? with
      | none => simp [List.getLast?_cons, hlast]
      | some last => simp [List.getLast?_cons, hlast]

/-- Each report of a change stands for one move of the switch, which has two positions. -/
lemma odd_count_overrideAll_iff (values : List (Option String)) :
    Odd ((s.overrideAll values).1.count true) ↔
      (s.overrideAll values).2.singleInstance ≠ s.singleInstance := by
  induction values generalizing s with
  | nil => simp [overrideAll]
  | cons v values ih =>
    have hrest := ih (s.override v).2
    rw [overrideAll_cons, override_eq] at *
    by_cases hmoves : s.decision v = s.singleInstance
    · simpa [hmoves] using hrest
    · have hother : s.decision v = !s.singleInstance := Bool.eq_not.2 hmoves
      simp only [hother, Bool.not_bne_self, List.count_cons_self, Nat.odd_add_one] at hrest ⊢
      rw [hrest]
      simp

/-- **Overrides in a row.**  Whatever overrides are applied one after the other, they leave all of
the settings but the switch as they are.  The switch stands in the end as the last override that is
present decides - off exactly if its value, without the blanks around it and in lower case, is one of
four words - and where it stood if none is present.  Each override reports a change exactly if it
moves the switch: so none does that is absent, or decides what holds already, or repeats the one just
before it.  And the switch has moved in the end exactly if an odd number of changes was reported. -/
theorem overrideAll_follows_last_value (values : List (Option String)) :
    let reports := (s.overrideAll values).1
    let last := (s.overrideAll values).2
    last = { s with singleInstance := last.singleInstance } ∧
    (values.reduceOption = [] → last.singleInstance = s.singleInstance) ∧
    (∀ value, values.reduceOption.getLast? = some value →
      (last.singleInstance = false ↔ ∃ word, Text.Trimmed value.toList word ∧
        String.ofList (Text.lowerAscii word) ∈ ["false", "0", "no", "off"])) ∧
    reports.length = values.length ∧
    (∀ before v rest, values = before ++ v :: rest →
      let stood := (s.overrideAll before).2.singleInstance
      ∃ changed, reports[before.length]? = some changed ∧
        (changed = true ↔ (s.overrideAll (before ++ [v])).2.singleInstance ≠ stood) ∧
        (v = none → changed = false) ∧
        (∀ value, v = some value → enforces value = stood → changed = false) ∧
        (before.getLast? = some v → changed = false)) ∧
    (Odd (reports.count true) ↔ last.singleInstance ≠ s.singleInstance) := by
  intro reports last
  refine ⟨overrideAll_frame s values, fun hnone => ?_, fun value hvalue => ?_,
    length_overrideAll s values, ?_, odd_count_overrideAll_iff s values⟩
  · simp [last, singleInstance_overrideAll, hnone]
  · rw [← enforces_eq_false_iff, ← decision_some s, ← hvalue, ← singleInstance_overrideAll]
  · rintro before v rest rfl stood
    have hdecision : (s.overrideAll (before ++ [v])).2.singleInstance =
        (s.overrideAll before).2.decision v := by
      simp [overrideAll_append, overrideAll, override_eq]
    refine ⟨_, report_overrideAll s before v rest, ?_, ?_, ?_, fun hlast => ?_⟩
    · rw [hdecision, override_eq, bne_iff_ne]
    · rintro rfl
      rfl
    · rintro value rfl hholds
      simp [override, hholds, stood]
    · -- the override just before has put the switch where this one wants it
      obtain ⟨earlier, rfl⟩ := List.getLast?_eq_some_iff.1 hlast
      rw [override_eq, bne_eq_false_iff_eq]
      cases v with
      | none => rfl
      | some value => simp [overrideAll_append, overrideAll, override]

end LaunchGuard.Settings
