import FeatureFlags.Proofs.SourceHealth
import FeatureFlags.Source.Polling

/-!
Runs of a polling data source, one action at a time, and the account that goes with a run. A source
that is closed is off at once, but a fetch that is under way is answered first, and its answer
counts.
-/
namespace FeatureFlags.Polling

inductive Action where
  /-- The fetch that is under way is answered. -/
  | respond (answer : Except Failure Definitions)
  | elapse
  | storeStatus (status : StoreStatus)
  /-- The store goes down, or it is back. -/
  | outage (failure : Option Failure)
  /-- Someone closes the source, and does not wait for it to end. That it is told to stop and that it
  is reported off count as one moment. -/
  | close
  /-- At rest, the source finds out whether it was closed. -/
  | stop
  deriving Inhabited

def act (p : Polling) : Action → Polling
  | .respond answer => p.respond answer
  | .elapse => p.elapse
  | .storeStatus status => { p with replica := p.replica.reportStore status }
  | .outage failure => { p with replica.outage := failure }
  | .close => if p.closed then p else { p with closed := true, replica := p.replica.report .off }
  | .stop => if p.closed = true ∧ p.phase = .resting then { p with phase := .ended } else p

def acts (p : Polling) (actions : List Action) : Polling := actions.foldl act p

/-- To close a source and wait for its end takes the answer of the fetch under way. -/
theorem close_eq_acts {p : Polling} (hopen : p.closed = false)
    (pending : Except Failure Definitions) :
    p.close pending = p.acts [.close, .respond pending, .stop] := by
  obtain ⟨replica, phase, closed⟩ := p
  obtain rfl : closed = false := hopen
  cases phase with
  | fetching =>
    cases pending with
    | ok definitions => rfl
    | error failure =>
      cases hrecoverable : failure.isRecoverable <;>
        simp [close, acts, act, respond, hrecoverable]
  | resting => rfl
  | ended => rfl

/-- An answer counts only if it was waited for. -/
def respondEntries (p : Polling) (answer : Except Failure Definitions) : List Entry :=
  if p.phase = .fetching then
    match answer with
    | .ok definitions => [p.replica.attempt (.all definitions)]
    | .error failure => [.failed failure]
  else []

def actEntries (p : Polling) : Action → List Entry
  | .respond answer => p.respondEntries answer
  | .elapse | .storeStatus _ | .outage _ | .close | .stop => []

def account : Polling → List Action → List Entry
  | _, [] => []
  | p, action :: rest => p.actEntries action ++ account (p.act action) rest

/-- What every action keeps, as the account grows, holds of a run. -/
theorem acts_induction {P : Polling → List Entry → Prop}
    (step : ∀ {p account}, P p account →
      ∀ action, P (p.act action) (account ++ p.actEntries action))
    {p : Polling} {entered : List Entry} (h : P p entered) (actions : List Action) :
    P (p.acts actions) (entered ++ p.account actions) := by
  induction actions generalizing p entered with
  | nil => simpa [acts, account] using h
  | cons action rest ih =>
    rw [account, ← List.append_assoc]
    exact ih (step h action)

/-- The answer of a fetch does to the copy what it enters. -/
theorem replica_respond (p : Polling) (answer : Except Failure Definitions) :
    (p.respond answer).replica = p.replica.enterAll (p.respondEntries answer) := by
  unfold respond respondEntries
  cases p.phase with
  | fetching =>
    cases answer with
    | ok definitions => exact p.replica.synchronize_fst definitions
    | error failure => rfl
  | resting => rfl
  | ended => rfl

theorem closed_respond (p : Polling) (answer : Except Failure Definitions) :
    (p.respond answer).closed = p.closed := by
  unfold respond
  cases p.phase <;> cases answer <;> rfl

/-- An answer ends a source exactly if it is a final failure. -/
theorem phase_respond_eq_ended_iff (p : Polling) (answer : Except Failure Definitions) :
    (p.respond answer).phase = .ended ↔
      p.phase = .ended ∨ Entry.Fatal (p.respondEntries answer) := by
  unfold respond respondEntries
  cases hphase : p.phase with
  | fetching =>
    cases answer with
    | ok definitions =>
      have hwritten : ¬ Entry.Fatal [p.replica.attempt (.all definitions)] :=
        Entry.not_fatal_attempt _ _
      simp [hwritten]
    | error failure =>
      cases hrecoverable : failure.isRecoverable <;>
        simp [Entry.fatal_singleton_iff, hrecoverable]
  | resting => simp [hphase, Entry.not_fatal_nil]
  | ended => simp [hphase]

end FeatureFlags.Polling
