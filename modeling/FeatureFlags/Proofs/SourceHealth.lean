import FeatureFlags.Proofs.StreamingActions
import Mathlib.Data.List.Induction

/-!
What the state of a streaming data source says about its store. The state is a function of the
account of the run, as is the outcome of the start. It is valid after a whole dataset, and also after
an item that was stored on top of one; so it may be valid although an update was refused in between,
and that is the only way in which it can be.
-/
namespace FeatureFlags

namespace Entry

def storesAll : Entry → Bool
  | .stored change => change.isWhole
  | .refused _ | .failed _ => false

def outcome? : Entry → Option (Except Failure Unit)
  | .stored change => if change.isWhole then some (.ok ()) else none
  | .refused _ => none
  | .failed failure => if failure.isRecoverable then none else some (.error failure)

/-- What a line of the account tells the tracker, if anything. An item is no news before there is a
whole dataset. -/
def report? (state : SourceState) : Entry → Option SourceState
  | .stored change => if change.isWhole || state != .initializing then some .valid else none
  | .refused _ => some .interrupted
  | .failed failure => some (Tracker.stateAfter failure)

def next (state : SourceState) (entry : Entry) : SourceState :=
  match entry.report? state with
  | some reported => if state = .off then .off else Tracker.nextState state reported
  | none => state

def stateAfter (account : List Entry) : SourceState := account.foldl next .initializing

@[simp] theorem stateAfter_concat (account : List Entry) (entry : Entry) :
    stateAfter (account ++ [entry]) = next (stateAfter account) entry := by
  simp [stateAfter]

def Fatal (account : List Entry) : Prop :=
  ∃ failure, .failed failure ∈ account ∧ failure.isRecoverable = false

theorem not_fatal_nil : ¬ Fatal [] := by
  rintro ⟨failure, hmem, -⟩
  exact absurd hmem List.not_mem_nil

theorem fatal_singleton_iff (entry : Entry) :
    Fatal [entry] ↔ ∃ failure, entry = .failed failure ∧ failure.isRecoverable = false := by
  constructor
  · rintro ⟨failure, hmem, hfatal⟩
    exact ⟨failure, (List.mem_singleton.mp hmem).symm, hfatal⟩
  · rintro ⟨failure, rfl, hfatal⟩
    exact ⟨failure, List.mem_singleton.mpr rfl, hfatal⟩

/-- A failure is final in an account if it is in one of its parts. -/
theorem fatal_append_iff (first second : List Entry) :
    Fatal (first ++ second) ↔ Fatal first ∨ Fatal second := by
  simp only [Fatal, List.mem_append, or_and_right, exists_or]

theorem fatal_concat_iff (account : List Entry) (entry : Entry) :
    Fatal (account ++ [entry]) ↔
      Fatal account ∨ ∃ failure, entry = .failed failure ∧ failure.isRecoverable = false := by
  rw [fatal_append_iff, fatal_singleton_iff]

/-- Nothing that is written or refused is final. -/
theorem not_fatal_attempt (r : Replica) (change : Change) : ¬ Fatal [r.attempt change] := by
  rw [fatal_singleton_iff]
  rintro ⟨failure, hattempt, -⟩
  unfold Replica.attempt at hattempt
  split at hattempt <;> cases hattempt

/-- A refused update is lost until a whole dataset is stored. -/
def Lost (account : List Entry) : Prop :=
  ∃ before change after, account = before ++ .refused change :: after ∧
    ∀ entry ∈ after, entry.storesAll = false

/-- An item was stored last, and an update was lost on the way there from a whole dataset. -/
def HidesLoss (account : List Entry) : Prop :=
  ∃ before definitions between change after kind key descriptor,
    account = before ++ .stored (.all definitions) :: between ++ .refused change :: after ++
      [.stored (.item kind key descriptor)] ∧
    ∀ entry ∈ after, entry.storesAll = false

theorem next_of_off (entry : Entry) : next .off entry = .off := by
  cases h : entry.report? .off <;> simp [next, h]

/-- Only a final failure turns a state off. -/
theorem next_eq_off_iff {state : SourceState} (hstate : state ≠ .off) (entry : Entry) :
    next state entry = .off ↔ ∃ failure, entry = .failed failure ∧ failure.isRecoverable = false := by
  cases entry with
  | stored change =>
    cases hwhole : change.isWhole <;> cases state <;>
      simp_all [next, report?, Tracker.nextState]
  | refused change => cases state <;> simp_all [next, report?, Tracker.nextState]
  | failed failure =>
    cases hrec : failure.isRecoverable <;> cases state <;>
      simp_all [next, report?, Tracker.nextState, Tracker.stateAfter]

theorem next_eq_initializing_iff {state : SourceState} (hstate : state ≠ .off) (entry : Entry)
    (hnext : next state entry ≠ .off) :
    next state entry = .initializing ↔ state = .initializing ∧ entry.storesAll = false := by
  cases entry with
  | stored change =>
    cases hwhole : change.isWhole <;> cases state <;>
      simp_all [next, report?, storesAll, Tracker.nextState]
  | refused change => cases state <;> simp_all [next, report?, storesAll, Tracker.nextState]
  | failed failure =>
    cases hrec : failure.isRecoverable <;> cases state <;>
      simp_all [next, report?, storesAll, Tracker.nextState, Tracker.stateAfter]

/-- The state is off exactly after a final failure. -/
theorem stateAfter_eq_off_iff (account : List Entry) : stateAfter account = .off ↔ Fatal account := by
  induction account using List.reverseRecOn with
  | nil => simp [stateAfter, Fatal]
  | append_singleton earlier entry ih =>
    rw [stateAfter_concat, fatal_concat_iff, ← ih]
    by_cases hoff : stateAfter earlier = .off
    · simp [hoff, next_of_off]
    · simp [hoff, next_eq_off_iff hoff]

/-- Short of a final failure, a source is initializing as long as there is no whole dataset. -/
theorem stateAfter_eq_initializing_iff {account : List Entry} (hfatal : ¬ Fatal account) :
    stateAfter account = .initializing ↔ account.any storesAll = false := by
  induction account using List.reverseRecOn with
  | nil => simp [stateAfter]
  | append_singleton earlier entry ih =>
    have hearlier : ¬ Fatal earlier := fun h => hfatal ((fatal_concat_iff earlier entry).mpr (.inl h))
    have hoff : stateAfter earlier ≠ .off := fun h => hearlier ((stateAfter_eq_off_iff earlier).mp h)
    have hnext : next (stateAfter earlier) entry ≠ .off := by
      rw [← stateAfter_concat]
      exact fun h => hfatal ((stateAfter_eq_off_iff _).mp h)
    rw [stateAfter_concat, next_eq_initializing_iff hoff entry hnext, ih hearlier]
    simp

/-- Before there is a whole dataset, a stored item leaves the state as it is; afterwards the tracker
hears of it. -/
theorem report?_item (account : List Entry) (kind : Kind) (key : String) (descriptor : Descriptor) :
    if account.any storesAll then
      report? (stateAfter account) (.stored (.item kind key descriptor)) = some .valid
    else next (stateAfter account) (.stored (.item kind key descriptor)) = stateAfter account := by
  by_cases hfatal : Fatal account
  · have hoff : stateAfter account = .off := (stateAfter_eq_off_iff account).mpr hfatal
    split
    · simp [hoff, report?]
    · rw [hoff, next_of_off]
  · have hinit := stateAfter_eq_initializing_iff hfatal
    split
    · next hwhole =>
      have hne : stateAfter account ≠ .initializing := by
        rw [ne_eq, hinit, hwhole]
        exact Bool.noConfusion
      simp [report?, hne]
    · next hwhole =>
      rw [hinit.mpr (by simpa using hwhole)]
      rfl

/-- A state becomes valid with what was stored, an item counting only after a first dataset. -/
theorem next_eq_valid_iff {state : SourceState} (hstate : state ≠ .off) (entry : Entry) :
    next state entry = .valid ↔
      ∃ change, entry = .stored change ∧ (change.isWhole = true ∨ state ≠ .initializing) := by
  cases entry with
  | stored change =>
    cases hwhole : change.isWhole <;> cases state <;>
      simp_all [next, report?, Tracker.nextState]
  | refused change => cases state <;> simp_all [next, report?, Tracker.nextState]
  | failed failure =>
    cases hrec : failure.isRecoverable <;> cases state <;>
      simp_all [next, report?, Tracker.nextState, Tracker.stateAfter]

/-- What is stored last makes a source valid, and an item only on top of a whole dataset. -/
theorem stateAfter_eq_valid_iff (account : List Entry) :
    stateAfter account = .valid ↔
      ¬ Fatal account ∧ ∃ earlier change, account = earlier ++ [.stored change] ∧
        (change.isWhole = true ∨ earlier.any storesAll = true) := by
  cases account using List.reverseRecOn with
  | nil => simp [stateAfter]
  | append_singleton earlier entry =>
    rw [stateAfter_concat]
    by_cases hfatal : Fatal earlier
    · have hoff : stateAfter earlier = .off := (stateAfter_eq_off_iff earlier).mpr hfatal
      simp [hoff, next_of_off, fatal_concat_iff, hfatal]
    · have hoff : stateAfter earlier ≠ .off := fun h => hfatal ((stateAfter_eq_off_iff earlier).mp h)
      rw [next_eq_valid_iff hoff, fatal_concat_iff, ne_eq, stateAfter_eq_initializing_iff hfatal]
      constructor
      · rintro ⟨change, rfl, hchange⟩
        exact ⟨by simp [hfatal], earlier, change, rfl, by simpa using hchange⟩
      · rintro ⟨-, earlier', change, heq, hchange⟩
        obtain ⟨rfl, hentry⟩ := List.append_inj' heq rfl
        exact ⟨change, List.singleton_inj.mp hentry, by simpa using hchange⟩

theorem storesAll_iff (entry : Entry) :
    entry.storesAll = true ↔ ∃ definitions, entry = .stored (.all definitions) := by
  rcases entry with ⟨_ | _⟩ | _ | _ <;> simp [storesAll, Change.isWhole]

/-- A valid source with a loss is one that hides it. -/
theorem valid_and_lost_iff_hidesLoss (account : List Entry) :
    stateAfter account = .valid ∧ Lost account ↔ ¬ Fatal account ∧ HidesLoss account := by
  rw [stateAfter_eq_valid_iff]
  constructor
  · rintro ⟨⟨hfatal, earlier, last, rfl, hwhole⟩, before, change, after, heq, hafter⟩
    refine ⟨hfatal, ?_⟩
    cases after using List.reverseRecOn with
    | nil =>
      have hlast := (List.append_inj' heq rfl).2
      simp at hlast
    | append_singleton after entry =>
      rw [← List.cons_append, ← List.append_assoc] at heq
      obtain ⟨rfl, hentry⟩ := List.append_inj' heq rfl
      obtain rfl : Entry.stored last = entry := List.singleton_inj.mp hentry
      have hitem : last.isWhole = false := hafter (.stored last) (by simp)
      have hrest : ∀ entry ∈ after, entry.storesAll = false := fun entry hmem =>
        hafter entry (List.mem_append_left _ hmem)
      obtain ⟨whole, hmem, hstores⟩ := List.any_eq_true.mp (hwhole.resolve_left (by simp [hitem]))
      -- The whole dataset came before the refusal, since nothing after it is one.
      have hmem : whole ∈ before := by
        rcases List.mem_append.mp hmem with hmem | hmem
        · exact hmem
        · rcases List.mem_cons.mp hmem with rfl | hmem
          · simp [storesAll] at hstores
          · simp [hrest whole hmem] at hstores
      obtain ⟨definitions, rfl⟩ := (storesAll_iff whole).mp hstores
      obtain ⟨start, between, rfl⟩ := List.append_of_mem hmem
      cases last with
      | all _ => simp [Change.isWhole] at hitem
      | item kind key descriptor =>
        exact ⟨start, definitions, between, change, after, kind, key, descriptor, by simp, hrest⟩
  · rintro ⟨hfatal, before, definitions, between, change, after, kind, key, descriptor, rfl, hafter⟩
    refine ⟨⟨hfatal, _, _, rfl, Or.inr (by simp [storesAll, Change.isWhole])⟩, ?_⟩
    refine ⟨before ++ .stored (.all definitions) :: between, change,
      after ++ [.stored (.item kind key descriptor)], by simp, fun entry hmem => ?_⟩
    rcases List.mem_append.mp hmem with hmem | hmem
    · exact hafter entry hmem
    · rw [List.mem_singleton.mp hmem]
      rfl

end Entry

namespace Replica

open Entry

/-- What an account tells of a copy: how the start came out, the state of the data source, and
whether there ever was a whole dataset. -/
structure Reflects (r : Replica) (closed : Bool) (account : List Entry) : Prop where
  initialized : r.initialized = account.any storesAll
  startup : r.startup = account.findSome? outcome?
  state : r.tracker.status.state = if closed then .off else stateAfter account

variable {r : Replica} {closed : Bool} {account : List Entry}

/-- A report that a line calls for leaves the state that the line makes. -/
theorem Reflects.state_report (h : r.Reflects closed account) (entry : Entry)
    {reported : SourceState} (hreport : entry.report? (stateAfter account) = some reported)
    (failure : Option FailureInfo) :
    (r.report reported failure).tracker.status.state =
      if closed then .off else stateAfter (account ++ [entry]) := by
  change (r.tracker.update reported failure).status.state = _
  rw [Tracker.state_update, h.state, stateAfter_concat, next, hreport]
  cases closed <;> simp

theorem Reflects.stored_all (h : r.Reflects closed account) (definitions : Definitions) :
    (r.enter (.stored (.all definitions))).Reflects closed
      (account ++ [.stored (.all definitions)]) where
  initialized := by simp [enter, resolve, storesAll, Change.isWhole]
  startup := by
    rw [List.findSome?_append, ← h.startup]
    rfl
  state := h.state_report (.stored (.all definitions)) rfl none

theorem Reflects.stored_item (h : r.Reflects closed account) (kind : Kind) (key : String)
    (descriptor : Descriptor) :
    (r.enter (.stored (.item kind key descriptor))).Reflects closed
      (account ++ [.stored (.item kind key descriptor)]) := by
  have hany : (account ++ [Entry.stored (.item kind key descriptor)]).any storesAll =
      account.any storesAll := by
    simp [storesAll, Change.isWhole]
  have hfirst : (account ++ [Entry.stored (.item kind key descriptor)]).findSome? outcome? =
      account.findSome? outcome? := by
    simp [List.findSome?_append, outcome?, Change.isWhole]
  have hitem := report?_item account kind key descriptor
  rw [← h.initialized] at hitem
  simp only [enter]
  -- The source reports an item exactly where the account says that it is news.
  split
  · next hinit =>
    rw [if_pos hinit] at hitem
    exact ⟨h.initialized.trans hany.symm, h.startup.trans hfirst.symm, h.state_report _ hitem none⟩
  · next hinit =>
    rw [if_neg hinit] at hitem
    refine ⟨h.initialized.trans hany.symm, h.startup.trans hfirst.symm, h.state.trans ?_⟩
    rw [stateAfter_concat, hitem]

theorem Reflects.refused (h : r.Reflects closed account) (change : Change) :
    (r.enter (.refused change)).Reflects closed (account ++ [.refused change]) := by
  have hstore : ∀ failure : Failure, Tracker.stateAfter failure.ofStore = .interrupted := by
    intro failure
    cases failure <;> rfl
  simp only [enter, reportFailure, hstore]
  refine ⟨?_, ?_, h.state_report (.refused change) rfl _⟩
  · simpa [storesAll] using h.initialized
  · simpa [List.findSome?_append, outcome?] using h.startup

theorem Reflects.failed (h : r.Reflects closed account) (failure : Failure) :
    (r.enter (.failed failure)).Reflects closed (account ++ [.failed failure]) := by
  have hstate := h.state_report (.failed failure) rfl (some (.ofFailure failure))
  simp only [enter, fail, reportFailure]
  cases hrecoverable : failure.isRecoverable with
  | true =>
    refine ⟨?_, ?_, hstate⟩
    · simpa [storesAll] using h.initialized
    · simpa [List.findSome?_append, outcome?, hrecoverable] using h.startup
  | false =>
    refine ⟨?_, ?_, hstate⟩
    · simpa [storesAll, resolve] using h.initialized
    · simp [List.findSome?_append, outcome?, hrecoverable, resolve, ← h.startup]

/-- Each line keeps the copy and its account in step. -/
theorem Reflects.enter (h : r.Reflects closed account) (entry : Entry) :
    (r.enter entry).Reflects closed (account ++ [entry]) := by
  rcases entry with ⟨definitions | ⟨kind, key, descriptor⟩⟩ | change | failure
  · exact h.stored_all definitions
  · exact h.stored_item kind key descriptor
  · exact h.refused change
  · exact h.failed failure

theorem Reflects.enterAll (later : List Entry) {r : Replica} {account : List Entry}
    (h : r.Reflects closed account) : (r.enterAll later).Reflects closed (account ++ later) := by
  induction later generalizing r account with
  | nil => simpa [Replica.enterAll] using h
  | cons entry rest ih =>
    rw [List.append_cons]
    exact ih (h.enter entry)

/-- Whatever the state was, a data source that is closed is off. -/
theorem Reflects.close (h : r.Reflects closed account) : (r.report .off).Reflects true account where
  initialized := h.initialized
  startup := h.startup
  state := by
    change (r.tracker.update .off none).status.state = .off
    rw [Tracker.state_update]
    simp [Tracker.nextState]

/-- Statuses of the store and outages are not entered. -/
theorem Reflects.reportStore (h : r.Reflects closed account) (status : StoreStatus) :
    (r.reportStore status).Reflects closed account := ⟨h.initialized, h.startup, h.state⟩

theorem Reflects.outage (h : r.Reflects closed account) (failure : Option Failure) :
    ({ r with outage := failure } : Replica).Reflects closed account :=
  ⟨h.initialized, h.startup, h.state⟩

end Replica

namespace Streaming

open Entry

/-- The account tells the state, the outcome of the start, and whether there ever was a whole
dataset. -/
abbrev Reflects (s : Streaming) (account : List Entry) : Prop := s.replica.Reflects s.closed account

variable {s : Streaming} {account : List Entry}

theorem Reflects.act (h : Reflects s account) (action : Action) :
    Reflects (s.act action) (account ++ s.actEntries action) := by
  cases action with
  | connect answers result =>
    simp only [Reflects, Streaming.act, actEntries]
    rw [replica_connect, closed_connect]
    exact Replica.Reflects.enterAll _ h
  | receive answers message =>
    simp only [Reflects, Streaming.act, actEntries]
    rw [replica_receive, (receive_frame answers s message).1]
    exact Replica.Reflects.enterAll _ h
  | elapse =>
    simp only [Streaming.act, Streaming.elapse, actEntries, List.append_nil]
    split <;> exact h
  | storeStatus status =>
    rw [actEntries, List.append_nil]
    exact Replica.Reflects.reportStore h status
  | outage failure =>
    rw [actEntries, List.append_nil]
    exact Replica.Reflects.outage h failure
  | close =>
    simp only [Streaming.act, actEntries, List.append_nil]
    split
    · exact h
    · exact Replica.Reflects.close h

/-- So a run keeps them in step, from its beginning. -/
theorem Reflects.run (happenings : List Happening) {s : Streaming} {account : List Entry}
    (h : Reflects s account) :
    Reflects (s.run happenings) (account ++ s.entries happenings) := by
  obtain ⟨actions, hrun, hentries⟩ := exists_actions happenings s
  rw [hrun, hentries]
  exact acts_induction Reflects.act h actions

theorem reflects_start (store : Store) (monitored : Bool) : Reflects (start store monitored) [] :=
  ⟨rfl, rfl, rfl⟩

/-- A running source is valid with a loss exactly if it stored an item after the loss. -/
theorem valid_and_lost_iff (store : Store) (monitored : Bool) (happenings : List Happening) :
    ((start store monitored).run happenings).replica.tracker.status.state = .valid ∧
        Lost ((start store monitored).entries happenings) ↔
      ((start store monitored).run happenings).closed = false ∧
        ¬ Fatal ((start store monitored).entries happenings) ∧
        HidesLoss ((start store monitored).entries happenings) := by
  have h := Reflects.run happenings (reflects_start store monitored)
  rw [List.nil_append] at h
  rw [h.state, ← valid_and_lost_iff_hidesLoss]
  cases ((start store monitored).run happenings).closed <;> simp

/-- Two items are fetched after a whole dataset, and the store is down for the first of them. -/
def lossyRun : List Happening :=
  let answers : Answers :=
    ⟨.ok {}, fun key => .ok { key }, fun key => .ok { key }⟩
  [.connect answers (.ok ()),
    .receive answers (.event 0 ⟨"indirect/put", "", none⟩),
    .outage (some (.store "store is down")),
    .receive answers (.event 0 ⟨"indirect/patch", "/flags/a", none⟩),
    .outage none,
    .receive answers (.event 0 ⟨"indirect/patch", "/flags/b", none⟩)]

/-- The state is valid although the first of the items is lost. -/
theorem valid_though_lost :
    ((start {} true).run lossyRun).replica.tracker.status.state = .valid ∧
      Lost ((start {} true).entries lossyRun) := by
  refine ⟨by decide, [.stored (.all {})], .item .flags "a" (.ofItem (.flag { key := "a" })),
    [.stored (.item .flags "b" (.ofItem (.flag { key := "b" })))], by rfl, ?_⟩
  simp [storesAll, Change.isWhole]

end Streaming

end FeatureFlags
