import FeatureFlags.Failure

/-!
The health of a data source and of its store, and who listens to it. Off is final. A report that
changes nothing and carries no failure is not heard. Those who were listening when a report was made
hear it, in the order in which they began to listen, whatever they do to the listeners meanwhile.
-/
namespace FeatureFlags

inductive SourceState where
  | initializing
  | valid
  | interrupted
  | off
  deriving DecidableEq, Inhabited

def SourceState.name : SourceState → String
  | .initializing => "Initializing"
  | .valid => "Valid"
  | .interrupted => "Interrupted"
  | .off => "Off"

structure Status where
  state : SourceState := .initializing
  /-- The moment at which the state came about, as the number of the report made then: the clock is
  taken to move on from one report to the next. -/
  since : Nat := 0
  lastFailure : Option FailureInfo := none
  deriving DecidableEq, Inhabited

structure StoreStatus where
  available : Bool := true
  refreshNeeded : Bool := false
  deriving DecidableEq, Inhabited

structure Tracker where
  status : Status := {}
  storeStatus : StoreStatus := {}
  /-- The listeners of each kind, in the order in which they began to listen. -/
  statusListeners : List Nat := []
  storeListeners : List Nat := []
  nextListener : Nat := 0
  /-- How many reports were made. -/
  reports : Nat := 0
  deriving DecidableEq, Inhabited

namespace Tracker

/-- The state after a report: an interruption does not end the initialization. -/
def nextState : (old reported : SourceState) → SourceState
  | .initializing, .interrupted => .initializing
  | _, reported => reported

/-- Whether a report is heard. -/
def isEffective (t : Tracker) (reported : SourceState) (failure : Option FailureInfo) : Bool :=
  t.status.state != .off && (nextState t.status.state reported != t.status.state || failure.isSome)

def update (t : Tracker) (reported : SourceState) (failure : Option FailureInfo := none) : Tracker :=
  let t := { t with reports := t.reports + 1 }
  if t.isEffective reported failure then
    let state := nextState t.status.state reported
    { t with
      status.state := state
      status.since := if state = t.status.state then t.status.since else t.reports
      status.lastFailure := failure.or t.status.lastFailure }
  else t

/-- Off is final. -/
theorem status_update_of_off {t : Tracker} (h : t.status.state = .off) (reported : SourceState)
    (failure : Option FailureInfo) : (t.update reported failure).status = t.status := by
  simp [update, isEffective, h]

/-- The state after a report, whether it is heard or not. -/
theorem state_update (t : Tracker) (reported : SourceState) (failure : Option FailureInfo) :
    (t.update reported failure).status.state =
      if t.status.state = .off then .off else nextState t.status.state reported := by
  by_cases hoff : t.status.state = .off
  · rw [status_update_of_off hoff, if_pos hoff, hoff]
  · rw [if_neg hoff]
    simp only [update, isEffective]
    split
    · rfl
    · next h =>
      simp only [Bool.and_eq_true, bne_iff_ne, ne_eq, hoff, not_false_eq_true, Bool.or_eq_true,
        true_and, not_or, Decidable.not_not] at h
      exact h.1.symm

/-- A failure is kept until another one is reported. -/
theorem lastFailure_update (t : Tracker) (reported : SourceState) (failure : Option FailureInfo) :
    (t.update reported failure).status.lastFailure =
      if t.status.state = .off then t.status.lastFailure
      else failure.or t.status.lastFailure := by
  by_cases hoff : t.status.state = .off
  · rw [status_update_of_off hoff, if_pos hoff]
  · rw [if_neg hoff]
    cases failure with
    | none =>
      simp only [update]
      split <;> rfl
    | some info => simp [update, isEffective, hoff]

/-- The moment is that of the last report that changed the state. -/
theorem since_update (t : Tracker) (reported : SourceState) (failure : Option FailureInfo) :
    (t.update reported failure).status.since =
      if (t.update reported failure).status.state = t.status.state then t.status.since
      else t.reports + 1 := by
  simp only [update]
  split
  · rfl
  · rw [if_pos rfl]

theorem update_listeners (t : Tracker) (reported : SourceState) (failure : Option FailureInfo) :
    (t.update reported failure).statusListeners = t.statusListeners ∧
      (t.update reported failure).storeListeners = t.storeListeners ∧
      (t.update reported failure).nextListener = t.nextListener := by
  simp only [update]
  split <;> exact ⟨rfl, rfl, rfl⟩

theorem reports_update (t : Tracker) (reported : SourceState) (failure : Option FailureInfo) :
    (t.update reported failure).reports = t.reports + 1 := by
  simp only [update]
  split <;> rfl

/-- A report is heard unless the tracker is off, or it makes no new state and brings no failure. -/
theorem isEffective_iff (t : Tracker) (reported : SourceState) (failure : Option FailureInfo) :
    t.isEffective reported failure = true ↔
      t.status.state ≠ .off ∧
        ((t.update reported failure).status.state ≠ t.status.state ∨ failure.isSome = true) := by
  rw [state_update]
  by_cases hoff : t.status.state = .off
  · simp [isEffective, hoff]
  · simp [isEffective, hoff]

def reportValid (t : Tracker) : Tracker := t.update .valid

def stateAfter (failure : Failure) : SourceState :=
  if failure.isRecoverable then .interrupted else .off

def reportFailure (t : Tracker) (failure : Failure) : Tracker :=
  t.update (stateAfter failure) (some (.ofFailure failure))

def updateStore (t : Tracker) (status : StoreStatus) : Tracker :=
  { t with storeStatus := status }

def addStatusListener (t : Tracker) : Tracker × Nat :=
  ({ t with
      statusListeners := t.statusListeners ++ [t.nextListener]
      nextListener := t.nextListener + 1 }, t.nextListener)

def addStoreListener (t : Tracker) : Tracker × Nat :=
  ({ t with
      storeListeners := t.storeListeners ++ [t.nextListener]
      nextListener := t.nextListener + 1 }, t.nextListener)

def removeListener (t : Tracker) (id : Nat) : Tracker × Bool :=
  ({ t with
      statusListeners := t.statusListeners.erase id
      storeListeners := t.storeListeners.erase id },
    t.statusListeners.contains id || t.storeListeners.contains id)

def audience (t : Tracker) (reported : SourceState) (failure : Option FailureInfo) : List Nat :=
  if t.isEffective reported failure then t.statusListeners else []

def storeAudience (t : Tracker) (status : StoreStatus) : List Nat :=
  if t.storeStatus = status then [] else t.storeListeners

def broadcast (call : Nat → σ → σ) (listeners : List Nat) (s : σ) : σ :=
  listeners.foldl (fun s id => call id s) s

end Tracker

end FeatureFlags
