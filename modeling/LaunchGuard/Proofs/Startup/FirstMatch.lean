/-
# The first layer that matches

Each layer looks at one signal of its own, and matches or gives a reason.  The decision takes the
layers in their order up to the first that matches, and logs the reasons of those before it.  So it
is settled by the signals up to that layer: the others may be what they will.  And of the arguments
it only matters whether the flag is among them.
-/
import Mathlib.Data.List.Forall2
import LaunchGuard.Mode

namespace LaunchGuard

namespace Layer

/-- What a layer looks for in its signal. -/
def Matches (s : Signals) : Layer → Prop
  | session => s.session = some 0
  | argument => "--run-as-service" ∈ s.args
  | environment => ∃ value, s.serviceValue = some value ∧
      String.ofList (Text.lowerAscii value.toList) ∈ ["server", "1", "true"]

/-- The entry of a layer that does not match. -/
def missed (l : Layer) (reason : String) : Entry :=
  ⟨.debug, .mode, "Service mode: " ++ l.name ++ " layer no match (" ++ reason ++ ")"⟩

/-- The entry of the decision. -/
def decided : Option Layer → Entry
  | some l => ⟨.info, .mode, "Service mode: matched " ++ l.name ++ " layer"⟩
  | none => ⟨.info, .mode, "Service mode: no layer matched, starting UI"⟩

variable {s s' : Signals} {l : Layer} {layers before rest : List Layer}

/-- A layer gives no reason exactly if it finds what it looks for. -/
lemma probe_eq_none_iff : l.probe s = none ↔ l.Matches s := by
  cases l with
  | session =>
    cases hsession : s.session with
    | none => simp [probe, Matches, hsession]
    | some n => cases n <;> simp [probe, Matches, hsession]
  | argument =>
    show _ ↔ serviceFlag ∈ s.args
    simp [probe]
  | environment =>
    cases hvalue : s.serviceValue with
    | none => simp [probe, Matches, hvalue]
    | some value =>
      have hmatches : environment.Matches s ↔
          String.ofList (Text.lowerAscii value.toList) ∈ serviceValues := by
        simp [Matches, hvalue, serviceValues]
      rw [hmatches]
      simp [probe, hvalue]

lemma decides_iff : l.decides s = true ↔ l.Matches s := by
  rw [decides, Option.isNone_iff_eq_none, probe_eq_none_iff]

/-- More arguments do not keep a layer from matching. -/
lemma Matches.mono_args (h : l.Matches s) {args : List String} (hsub : s.args ⊆ args) :
    l.Matches { s with args } := by
  cases l with
  | session => exact h
  | argument => exact hsub h
  | environment => exact h

/-- Among the arguments, only the flag counts. -/
lemma probe_congr_args {args : List String} (h : serviceFlag ∈ args ↔ serviceFlag ∈ s.args) :
    l.probe { s with args } = l.probe s := by
  cases l with
  | session => rfl
  | argument => simp only [probe, h]
  | environment => rfl

/-! ### The search for a layer -/

lemma firstMatch_of_match (h : l.probe s = none) (rest : List Layer) :
    firstMatch s (l :: rest) = ⟨some l, [decided (some l)]⟩ := by
  rw [firstMatch, h]
  rfl

lemma firstMatch_of_miss {reason : String} (h : l.probe s = some reason) (rest : List Layer) :
    firstMatch s (l :: rest) =
      ⟨(firstMatch s rest).value, l.missed reason :: (firstMatch s rest).log⟩ := by
  rw [firstMatch, h]
  rfl

/-- The search yields the first layer that matches. -/
lemma value_firstMatch (s : Signals) (layers : List Layer) :
    (firstMatch s layers).value = layers.find? (decides s) := by
  induction layers with
  | nil => rfl
  | cons l layers ih =>
    cases hprobe : l.probe s with
    | none => simp [firstMatch_of_match hprobe, decides, hprobe]
    | some reason => simp [firstMatch_of_miss hprobe, decides, hprobe, ih]

/-- The search leaves an entry for each layer before the one that it yields, with the reason of that
layer, and then one for the decision. -/
lemma log_firstMatch (s : Signals) (layers : List Layer) : ∃ before rest entries,
    layers = before ++ rest ∧ (firstMatch s layers).value = rest.head? ∧
    List.Forall₂ (fun l e => ∃ reason, l.probe s = some reason ∧ e = l.missed reason)
      before entries ∧
    (firstMatch s layers).log = entries ++ [decided (firstMatch s layers).value] := by
  induction layers with
  | nil => exact ⟨[], [], [], rfl, rfl, .nil, rfl⟩
  | cons l layers ih =>
    cases hprobe : l.probe s with
    | none => exact ⟨[], l :: layers, [], rfl, by simp [firstMatch_of_match hprobe], .nil,
        by simp [firstMatch_of_match hprobe]⟩
    | some reason =>
      obtain ⟨before, rest, entries, rfl, hvalue, hmissed, hlog⟩ := ih
      refine ⟨l :: before, rest, l.missed reason :: entries, rfl, ?_,
        .cons ⟨reason, hprobe, rfl⟩ hmissed, ?_⟩
      · rw [firstMatch_of_miss hprobe, hvalue]
      · rw [firstMatch_of_miss hprobe, hlog, List.cons_append]

/-- Signals that mean the same to all layers lead to the same search. -/
lemma firstMatch_congr (h : ∀ l ∈ layers, l.probe s' = l.probe s) :
    firstMatch s' layers = firstMatch s layers := by
  induction layers with
  | nil => rfl
  | cons l layers ih =>
    have hl : l.probe s' = l.probe s := h l (by simp)
    have hrest := ih fun l' hl' => h l' (by simp [hl'])
    cases hprobe : l.probe s with
    | none => rw [firstMatch_of_match hprobe, firstMatch_of_match (hl.trans hprobe)]
    | some reason =>
      rw [firstMatch_of_miss hprobe, firstMatch_of_miss (hl.trans hprobe), hrest]

/-- The search does not go beyond a layer that matches. -/
lemma firstMatch_append_of_match (h : l.probe s = none) (before rest : List Layer) :
    firstMatch s (before ++ l :: rest) = firstMatch s (before ++ [l]) := by
  induction before with
  | nil => simp [firstMatch_of_match h]
  | cons l' before ih =>
    rw [List.cons_append, List.cons_append]
    cases hprobe : l'.probe s with
    | none => rw [firstMatch_of_match hprobe, firstMatch_of_match hprobe]
    | some reason => rw [firstMatch_of_miss hprobe, firstMatch_of_miss hprobe, ih]

end Layer

namespace Mode

open Layer

variable {s s' : Signals} {l : Layer}

/-! ### The decision -/

lemma value_detect (s : Signals) :
    (detect s).value = (ofLayer (all.find? (decides s)), all.find? (decides s)) := by
  rw [← value_firstMatch]
  rfl

lemma log_detect (s : Signals) : (detect s).log = (firstMatch s all).log := List.append_nil _

/-- The mode goes with the layer that is found. -/
lemma value_detect_eq_iff {found : Option Layer} :
    (detect s).value = (ofLayer found, found) ↔ all.find? (decides s) = found := by
  rw [value_detect, Prod.mk.injEq]
  constructor
  · exact fun h => h.2
  · rintro rfl
    exact ⟨rfl, rfl⟩

/-- The first layer that matches makes the launch a service. -/
lemma value_detect_eq_some_iff : (detect s).value = (.service, some l) ↔
    ∃ before rest, all = before ++ l :: rest ∧ l.Matches s ∧ ∀ l' ∈ before, ¬l'.Matches s := by
  show (detect s).value = (ofLayer (some l), some l) ↔ _
  rw [value_detect_eq_iff, List.find?_eq_some_iff_append, decides_iff]
  simp only [Bool.not_eq_true', ← Bool.not_eq_true, decides_iff]
  tauto

/-- A launch is interactive if no layer matches. -/
lemma value_detect_eq_none_iff :
    (detect s).value = (.interactive, none) ↔ ∀ l : Layer, ¬l.Matches s := by
  show (detect s).value = (ofLayer none, none) ↔ _
  rw [value_detect_eq_iff]
  have hall : ∀ l : Layer, l ∈ all := fun l => by cases l <;> simp [all]
  simp [List.find?_eq_none, hall, decides_iff]

/-- The mode is that of a service exactly if some layer matches. -/
lemma mode_detect_eq_service_iff : (detect s).value.1 = .service ↔ ∃ l : Layer, l.Matches s := by
  rw [← not_iff_not, not_exists, ← value_detect_eq_none_iff, value_detect]
  cases all.find? (decides s) <;> simp [ofLayer]

/-! ### Signals that do not matter -/

/-- The layers behind the one that decides may find anything. -/
lemma detect_congr_of_match (before : List Layer) {rest : List Layer}
    (hall : all = before ++ l :: rest) (hl : l.probe s = none)
    (h : ∀ l' ∈ before ++ [l], l'.probe s' = l'.probe s) : detect s' = detect s := by
  have hl' : l.probe s' = none := by rw [h l (by simp), hl]
  have hsearch : firstMatch s' all = firstMatch s all := by
    rw [hall, firstMatch_append_of_match hl', firstMatch_append_of_match hl, firstMatch_congr h]
  rw [detect, detect, hsearch]

lemma detect_congr_args {args : List String} (h : serviceFlag ∈ args ↔ serviceFlag ∈ s.args) :
    detect { s with args } = detect s := by
  rw [detect, detect, firstMatch_congr fun l _ => probe_congr_args h]

lemma probe_eq_none_of_detect (h : (detect s).value.2 = some l) : l.probe s = none := by
  rw [value_detect] at h
  exact probe_eq_none_iff.2 (decides_iff.1 (List.find?_some h))

/-- **The first match decides.**  A layer matches exactly if it finds what it looks for: the session
of the services, the flag, or one of the values of the variable in any case of their letters.  The
launch is a service by the first layer that matches, and interactive exactly if none does; the log
has the reason of each layer before that one, in their order, and then the decision.  Of the
arguments only the flag counts, so it does not matter how the others are ordered, repeated or joined
by more of their kind; more arguments of any kind never make a service interactive; and once a layer
matches, the signals of the layers behind it change neither the decision nor the log. -/
theorem detect_takes_first_match (s : Signals) :
    let decision := (detect s).value
    (∀ l : Layer, l.probe s = none ↔ l.Matches s) ∧
    (∀ l, decision = (.service, some l) ↔ ∃ before rest,
      [.session, .argument, .environment] = before ++ l :: rest ∧
        l.Matches s ∧ ∀ l' ∈ before, ¬l'.Matches s) ∧
    (decision = (.interactive, none) ↔ ∀ l : Layer, ¬l.Matches s) ∧
    (∃ before rest entries, [.session, .argument, .environment] = before ++ rest ∧
      decision.2 = rest.head? ∧
      List.Forall₂ (fun l e => ∃ reason, l.probe s = some reason ∧ e = l.missed reason)
        before entries ∧
      (detect s).log = entries ++ [decided decision.2]) ∧
    (∀ args, s.args ⊆ args → (∀ a ∈ args, a ∈ s.args ∨ a ≠ "--run-as-service") →
      detect { s with args } = detect s) ∧
    (∀ args, s.args ⊆ args → decision.1 = .service →
      (detect { s with args }).value.1 = .service) ∧
    (decision.2 = some .session →
      ∀ args serviceValue, detect { s with args, serviceValue } = detect s) ∧
    (decision.2 = some .argument → ∀ serviceValue, detect { s with serviceValue } = detect s) := by
  intro decision
  refine ⟨fun l => probe_eq_none_iff, fun l => value_detect_eq_some_iff, value_detect_eq_none_iff,
    ?_, ?_, ?_, ?_, ?_⟩
  · have hvalue : decision.2 = (firstMatch s all).value := rfl
    rw [log_detect, hvalue]
    exact log_firstMatch s all
  · intro args hsub hothers
    apply detect_congr_args
    constructor
    · intro h
      exact (hothers _ h).resolve_right (not_not_intro rfl)
    · exact fun h => hsub h
  · intro args hsub hservice
    obtain ⟨l, hl⟩ := mode_detect_eq_service_iff.1 hservice
    exact mode_detect_eq_service_iff.2 ⟨l, hl.mono_args hsub⟩
  · intro hsession args serviceValue
    refine detect_congr_of_match [] rfl (probe_eq_none_of_detect hsession) ?_
    simp [probe]
  · intro hargument serviceValue
    refine detect_congr_of_match [.session] rfl (probe_eq_none_of_detect hargument) ?_
    simp [probe]

end Mode

end LaunchGuard
