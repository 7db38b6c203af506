import FeatureFlags.Proofs.TypedCalls

/-!
Conversions of a detail that follow each other, on details of every kind. A step that puts a default
in place of a value takes the variation away, and none comes back later. One case is left out of
this: a conversion that finds no value gives the default but leaves the variation, which `or` takes
away there. So a variation stands beside the value that was served, as the steps read it, or beside
the default of a conversion that found no value.
-/
namespace FeatureFlags.Detail

inductive Step : Type → Type → Type 1
  | or {α : Type} (default : α) : Step α α
  | map {α β : Type} (f : α → β) : Step α β
  | tryMap {α β : Type} (f : α → Option β) (default : β) (error : EvalError) : Step α β

namespace Step

variable {α β : Type}

def run : Step α β → Detail α → Detail β
  | .or default, detail => detail.or default
  | .map f, detail => detail.map f
  | .tryMap f default error, detail => detail.tryMap f default error

/-- What becomes of a value, unless it cannot be converted. -/
def read? : Step α β → α → Option β
  | .or _, value => some value
  | .map f, value => some (f value)
  | .tryMap f _ _, value => f value

/-- The caller's default; `map` has none. -/
def default? : Step α β → Option β
  | .or default => some default
  | .map _ => none
  | .tryMap _ default _ => some default

def Converts : Step α β → Prop
  | .tryMap .. => True
  | _ => False

/-- The default is put in place of a value that is not there or cannot be converted. -/
def Puts (step : Step α β) (value : Option α) : Prop :=
  value.bind step.read? = none ∧ step.default? ≠ none

/-- The value after a step is the converted one or else the default of the step. -/
theorem run_value (step : Step α β) (detail : Detail α) :
    (step.run detail).value = (detail.value.bind step.read?).or step.default? := by
  cases step with
  | or default =>
    rw [run, or_value]
    cases detail.value <;> rfl
  | map f =>
    rw [run, Detail.map]
    cases detail.value <;> rfl
  | tryMap f default error =>
    rw [run, tryMap_value]
    show _ = (detail.value.bind f).or (some default)
    cases detail.value.bind f <;> rfl

theorem run_value_of_puts {step : Step α β} {detail : Detail α} (hputs : step.Puts detail.value) :
    (step.run detail).value = step.default? := by
  rw [run_value, hputs.1, Option.none_or]

/-- No step brings a variation. -/
theorem run_variationIndex_eq_none (step : Step α β) {detail : Detail α}
    (hindex : detail.variationIndex = none) : (step.run detail).variationIndex = none := by
  obtain ⟨value, index, reason⟩ := detail
  subst hindex
  cases step with
  | or default => cases value <;> rfl
  | map f => rfl
  | tryMap f default error =>
    cases value with
    | none => rfl
    | some value =>
      rw [run, Detail.tryMap]
      dsimp only
      cases f value <;> rfl

/-- A default takes the variation away unless it is that of a conversion that found no value. -/
theorem run_variationIndex_of_puts {step : Step α β} {detail : Detail α}
    (hputs : step.Puts detail.value) :
    (step.run detail).variationIndex = none ↔
      detail.variationIndex = none ∨ ¬ (detail.value = none ∧ step.Converts) := by
  obtain ⟨value, index, reason⟩ := detail
  obtain ⟨hmissing, hdefault⟩ := hputs
  cases step with
  | or default =>
    cases value with
    | none => exact ⟨fun _ => .inr fun h => h.2, fun _ => rfl⟩
    | some value => cases hmissing
  | map f => exact absurd rfl hdefault
  | tryMap f default error =>
    cases value with
    | none =>
      show index = none ↔ index = none ∨ ¬ (_ ∧ True)
      simp
    | some value =>
      have hfails : f value = none := hmissing
      rw [run, Detail.tryMap]
      dsimp only
      rw [hfails]
      exact ⟨fun _ => .inr fun h => Option.some_ne_none _ h.1, fun _ => rfl⟩

end Step

inductive Steps : Type → Type → Type 1
  | done {α : Type} : Steps α α
  | step {α β γ : Type} (first : Step α β) (rest : Steps β γ) : Steps α γ

namespace Steps

variable {α β : Type}

def run {α β : Type} : Steps α β → Detail α → Detail β
  | .done, detail => detail
  | .step first rest, detail => rest.run (first.run detail)

/-- What becomes of a value if no step puts a default in its place. -/
def read? {α β : Type} : Steps α β → α → Option β
  | .done, value => some value
  | .step first rest, value => (first.read? value).bind rest.read?

/-- What becomes of a value that is not there if a conversion is the first to put its default in its
place, and no later step puts another. -/
def standIn? {α β : Type} : Steps α β → Option β
  | .done => none
  | .step (.or _) _ => none
  | .step (.map _) rest => rest.standIn?
  | .step (.tryMap _ default _) rest => rest.read? default

/-- No step brings in a variation. -/
theorem run_variationIndex_eq_none (steps : Steps α β) {detail : Detail α}
    (hindex : detail.variationIndex = none) : (steps.run detail).variationIndex = none := by
  induction steps with
  | done => exact hindex
  | step first rest ih => exact ih (first.run_variationIndex_eq_none hindex)

/-- The variation of a detail stands beside a value at the end. -/
def Beside (steps : Steps α β) (detail : Detail α) (value : β) (index : ℕ) : Prop :=
  detail.variationIndex = some index ∧
    ((∃ served, detail.value = some served ∧ steps.read? served = some value) ∨
      (detail.value = none ∧ steps.standIn? = some value))

/-- Where a value stands beside a variation it does so after the first step, too. -/
theorem beside_step {γ : Type} (first : Step α β) (rest : Steps β γ) (detail : Detail α) (value : γ)
    (index : ℕ) :
    rest.Beside (first.run detail) value index ↔ (step first rest).Beside detail value index := by
  obtain ⟨held, variation, reason⟩ := detail
  unfold Beside
  cases first with
  | or default =>
    cases held with
    | none => simp [Step.run, Detail.or, standIn?]
    | some held => simp [Step.run, Detail.or, read?, Step.read?]
  | map f =>
    cases held with
    | none => simp [Step.run, Detail.map, standIn?]
    | some held => simp [Step.run, Detail.map, read?, Step.read?]
  | tryMap f default error =>
    cases held with
    | none => simp [Step.run, Detail.tryMap, standIn?]
    | some held =>
      cases hread : f held with
      | none => simp [Step.run, Detail.tryMap, failedWith, read?, Step.read?, hread]
      | some converted => simp [Step.run, Detail.tryMap, read?, Step.read?, hread]

/-- When the value at the end stands beside a variation, whatever the steps are. -/
theorem run_eq_iff_beside (steps : Steps α β) (detail : Detail α) (value : β) (index : ℕ) :
    (steps.run detail).value = some value ∧ (steps.run detail).variationIndex = some index ↔
      steps.Beside detail value index := by
  induction steps with
  | done =>
    unfold Beside run read? standIn?
    simp [and_comm]
  | step first rest ih => rw [run, ih, beside_step]

end Steps

/-- A step that puts the default in place of a value leaves no variation, unless it is a conversion
that found no value; where none is left, none comes back; and after any steps a value stands beside
a variation exactly if that is the detail's own, and the value is what the steps make of the one
served or, where none was, of the default of the conversion that found none. -/
theorem variation_after_steps {α β γ : Type} (step : Step α β) (rest : Steps β γ)
    (detail : Detail α) :
    (step.Puts detail.value → (step.run detail).value = step.default? ∧
      ((step.run detail).variationIndex = none ↔
        detail.variationIndex = none ∨ ¬ (detail.value = none ∧ step.Converts))) ∧
    ((step.run detail).variationIndex = none →
      (rest.run (step.run detail)).variationIndex = none) ∧
    ∀ (steps : Steps α γ) (value : γ) (index : ℕ),
      (steps.run detail).value = some value ∧ (steps.run detail).variationIndex = some index ↔
        detail.variationIndex = some index ∧
          ((∃ served, detail.value = some served ∧ steps.read? served = some value) ∨
            (detail.value = none ∧ steps.standIn? = some value)) := by
  refine ⟨fun hputs => ?_, fun hindex => ?_, fun steps value index => ?_⟩
  · exact ⟨Step.run_value_of_puts hputs, Step.run_variationIndex_of_puts hputs⟩
  · exact rest.run_variationIndex_eq_none hindex
  · exact steps.run_eq_iff_beside detail value index

/-- A text that is read as a truth value gives way to the default, which is made into a number; the
variation is gone after the first step and stays away. -/
theorem text_read_as_bool :
    let served : Detail Json := ⟨some (.string "blue"), some 1, .fallthrough⟩
    let asBool : Step Json Bool := .tryMap Json.bool? true .wrongType
    let later : Steps Bool ℕ := .step (.or false) (.step (.map Bool.toNat) .done)
    asBool.Puts served.value ∧ (asBool.run served).value = some true ∧
      (asBool.run served).variationIndex = none ∧
      (later.run (asBool.run served)).variationIndex = none := by
  intro served asBool later
  have hputs : asBool.Puts served.value := ⟨rfl, nofun⟩
  obtain ⟨hput, hstays, -⟩ := variation_after_steps asBool later served
  obtain ⟨hvalue, hindex⟩ := hput hputs
  have hnone := hindex.mpr (.inr fun h => Option.some_ne_none _ h.1)
  exact ⟨hputs, hvalue, hnone, hstays hnone⟩

/-- The default of a conversion stands beside the variation of a detail that has no value. -/
theorem default_beside_variation :
    let missing : Detail Json := ⟨none, some 1, .off⟩
    let asBool : Step Json Bool := .tryMap Json.bool? true .wrongType
    asBool.Puts missing.value ∧ (asBool.run missing).value = some true ∧
      (asBool.run missing).variationIndex = some 1 ∧
      ∀ served, missing.value ≠ some served := by
  exact ⟨⟨rfl, nofun⟩, rfl, rfl, nofun⟩

end FeatureFlags.Detail
